import CatvService.Library.Value

/-!
# Rows of the transaction pipeline

`ck_query` and the functions below it pass lists of flat dictionaries, one per transfer.  `Row` is
such a dictionary: the keys that every upstream sends are fields, the keys that only some chains or
some upstreams send are optional, and whatever no function of the pipeline reads is kept in `rest`.
-/

namespace CatvService

open PyValue

/-- The dictionary of one transfer. -/
structure Row where
  depth : ℤ
  txHash : String
  sender : String
  receiver : String
  senderAnnotation : Option String
  receiverAnnotation : Option String
  senderType : Option String
  receiverType : Option String
  rest : Obj

/-- `direction` of the pipeline. -/
inductive Direction where
  | inbound
  | outbound
  deriving DecidableEq, Repr

namespace Direction

/-- `txn[inner]`: the end of a transfer that lies nearer to the start address. -/
def inner (direction : Direction) (row : Row) : String :=
  match direction with
  | .outbound => row.sender
  | .inbound => row.receiver

/-- `txn[outer]`: the end that lies further away. -/
def outer (direction : Direction) (row : Row) : String :=
  match direction with
  | .outbound => row.receiver
  | .inbound => row.sender

/-- `tx.get(f'{outer}_annotation', '')`. -/
def outerAnnotation (direction : Direction) (row : Row) : String :=
  match direction with
  | .outbound => row.receiverAnnotation.getD ""
  | .inbound => row.senderAnnotation.getD ""

end Direction
end CatvService
