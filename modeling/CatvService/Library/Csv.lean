import CatvService.Library.Dict

/-!
# Python's CSV reader

`str.splitlines` and `csv.DictReader` with the default dialect, on the lines of a text.

The reader is the state machine of the `csv` module: it takes a line character by character, and the
end of a line ends the record unless the line ends inside a quoted field, which then goes on with
the next line.  The lines come without their line breaks, so the states that skip them do not occur.
-/

namespace Csv

open Dictionary

/-! ## Lines -/

/-- The characters at which `str.splitlines` breaks a text. -/
def isLineBreak (c : Char) : Bool :=
  c = '\n' || c = '\r' || c = '\x0b' || c = '\x0c' || ('\x1c' ≤ c && c ≤ '\x1e') ||
    c = '\x85' || c = '\u2028' || c = '\u2029'

/-- The lines of a text; `line` is what the current line has so far, reversed, and `afterReturn`
says that the last line was broken at a carriage return. -/
def linesFrom : List Char → List Char → Bool → List (List Char)
  | [], line, _ => if line = [] then [] else [line.reverse]
  | c :: rest, line, afterReturn =>
      if afterReturn && c = '\n' then linesFrom rest line false
      else if isLineBreak c then line.reverse :: linesFrom rest [] (c = '\r')
      else linesFrom rest (c :: line) false

/-- `s.splitlines()`. -/
def splitlines (s : String) : List (List Char) :=
  linesFrom s.toList [] false

/-! ## Records -/

/-- `_csv.Error`. -/
structure CsvError where
  message : String
  deriving DecidableEq, Repr

/-- The states of the reader. -/
inductive ReaderState where
  | startRecord
  | startField
  | inField
  | inQuotedField
  | quoteInQuotedField
  deriving DecidableEq, Repr

/-- A reader inside a record: the characters of the current field, reversed, and the fields before
it. -/
structure Reader where
  state : ReaderState
  field : List Char
  fields : List String

namespace Reader

/-- `parse_reset`. -/
def start : Reader :=
  ⟨.startRecord, [], []⟩

/-- `csv.field_size_limit()`. -/
def fieldLimit : ℕ := 131072

/-- `parse_add_char`, and the state after it. -/
def addChar (reader : Reader) (c : Char) (state : ReaderState) : Except CsvError Reader :=
  if fieldLimit ≤ reader.field.length then
    .error ⟨"field larger than field limit (131072)"⟩
  else .ok { reader with field := c :: reader.field, state := state }

/-- `parse_save_field`, and the state after it. -/
def saveField (reader : Reader) (state : ReaderState) : Reader :=
  ⟨state, [], reader.fields ++ [String.ofList reader.field.reverse]⟩

/-- `parse_process_char` for a character of a line. -/
def processChar (reader : Reader) (c : Char) : Except CsvError Reader :=
  match reader.state with
  | .startRecord | .startField =>
      if c = '"' then .ok { reader with state := .inQuotedField }
      else if c = ',' then .ok (reader.saveField .startField)
      else reader.addChar c .inField
  | .inField =>
      if c = ',' then .ok (reader.saveField .startField)
      else reader.addChar c .inField
  | .inQuotedField =>
      if c = '"' then .ok { reader with state := .quoteInQuotedField }
      else reader.addChar c .inQuotedField
  | .quoteInQuotedField =>
      -- a doubled quote stands for a quote; after a single one the field goes on unquoted
      if c = '"' then reader.addChar c .inQuotedField
      else if c = ',' then .ok (reader.saveField .startField)
      else reader.addChar c .inField

/-- `parse_process_char` for the end of a line. -/
def processLineEnd (reader : Reader) : Reader :=
  match reader.state with
  | .startRecord | .inQuotedField => reader
  | .startField | .inField | .quoteInQuotedField => reader.saveField .startRecord

end Reader

/-- The records that `csv.reader` yields, one after another, and the error at which it stops, if
there is one. -/
def records (reader : Reader) : List (List Char) → List (List String) × Option CsvError
  | [] =>
      if reader.field ≠ [] ∨ reader.state = .inQuotedField then
        ([(reader.saveField .startRecord).fields], none)
      else ([], none)
  | line :: rest =>
      match line.foldlM Reader.processChar reader with
      | .error e => ([], some e)
      | .ok reader =>
          if reader.processLineEnd.state = .startRecord then
            let after := records .start rest
            (reader.processLineEnd.fields :: after.1, after.2)
          else records reader.processLineEnd rest

/-! ## `csv.DictReader` -/

/-- `reader.fieldnames`; a text without a record has none. -/
def fieldnames (lines : List (List Char)) : Except CsvError (List String) :=
  match records .start lines with
  | (header :: _, _) => .ok header
  | ([], some e) => .error e
  | ([], none) => .ok []

/-- The row of a record: the last of two columns with one name is the one that stays, and a column
that the record does not reach is `None`.  What is left over in a long record stands under a key
that is no text and is left out. -/
def dictRow (fieldnames record : List String) : Dict String (Option String) :=
  Dict.ofItems
    (fieldnames.zip (record.map some ++ List.replicate (fieldnames.length - record.length) none))

/-- The rows of the reader; empty records are skipped. -/
def dictRows (lines : List (List Char)) : Except CsvError (List (Dict String (Option String))) :=
  match records .start lines with
  | (_, some e) => .error e
  | (header :: rest, none) => .ok ((rest.filter (· ≠ [])).map (dictRow header))
  | ([], none) => .ok []

example : (records .start (splitlines "a,b\r\n\r\n\"x, \"\"y\"\"\nz\",1")).1 =
    [["a", "b"], [], ["x, \"y\"z", "1"]] := by
  decide

end Csv
