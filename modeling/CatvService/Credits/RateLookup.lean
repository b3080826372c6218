import CatvService.Library.Value

/-!
# The rate limit of a role

`get_rate` of `api/api_views.py`, which `validate_key` asks for the rate of a request.  On a miss it
stores every role of the table under `apiroleinfo_` and the role's id, and then looks for the role
under the bare id, where it has stored nothing.

`coldIsWarm_iff` says when the value of a miss is that of the hit behind it.
-/

namespace CatvService.RateLookup

open PyValue PyText Dictionary

/-! ## The model -/

/-- A role of the table: `role_id`, and the other entries of its dictionary. -/
structure Role where
  roleId : ℤ
  fields : Obj

/-- The dictionary of the role. -/
def Role.toJson (role : Role) : Json :=
  .dict (("role_id", .int role.roleId) :: role.fields)

/-- `API_CACHE`: its texts are JSON documents, and stand for what `json.loads` makes of them. -/
abbrev Cache := Dict String Json

/-- `__get_key(_id, _key)`: `None` without an entry, or where the entry does not have the key. -/
def getKey (cache : Cache) (id key : String) : Except PyErr Json :=
  match cache.get? id with
  | none => .ok .null
  | some document =>
      match document.item key with
      | .error (.keyError _) => .ok .null
      | result => result

/-- `f"apiroleinfo_{_id}"`. -/
def roleKey (id : ℤ) : String :=
  "apiroleinfo_" ++ toString id

/-- The loop over `auth_response`. -/
def cacheRoles (roles : List Role) (cache : Cache) : Cache :=
  (roles.map fun role => (roleKey role.roleId, role.toJson)).foldl
    (fun cache entry => cache.set entry.1 entry.2) cache

/-- What a call returns, or how it raises, and the cache that it leaves. -/
structure Lookup where
  value : Except PyErr Json
  cache : Cache

/-- `get_rate(_id, key)`, with the table that the RPC returns. -/
def getRate (roles : List Role) (id : ℤ) (key : String) (cache : Cache) : Lookup :=
  match getKey cache (roleKey id) key with
  | .error e => ⟨.error e, cache⟩
  | .ok rate =>
      if rate.truthy then ⟨.ok rate, cache⟩
      else
        let cache := cacheRoles roles cache
        ⟨getKey cache (toString id) key, cache⟩

/-- `rate_limit` and `ratelimit_status` of `user_detail` in `validate_key`, where `isRatelimited`
says what `is_ratelimited` makes of a rate. -/
def appliedLimit (isRatelimited : Json → Bool) (roles : List Role) (roleId : ℤ) (cache : Cache) :
    Except PyErr (Json × Bool) :=
  (fun rate => (rate, isRatelimited rate)) <$> (getRate roles roleId "catv_rate_limit" cache).value

/-- A call returns the same as the next one, on the cache that it leaves, and so does `validate_key`
for the field that it reads. -/
structure ColdIsWarm (roles : List Role) (id : ℤ) (key : String) (cache : Cache) : Prop where
  value : (getRate roles id key cache).value =
    (getRate roles id key (getRate roles id key cache).cache).value
  limit : key = "catv_rate_limit" → ∀ isRatelimited : Json → Bool,
    appliedLimit isRatelimited roles id cache =
      appliedLimit isRatelimited roles id (getRate roles id key cache).cache

/-- What the cache holds of the roles is what the table says. -/
def Agrees (cache : Cache) (roles : List Role) : Prop :=
  ∀ role ∈ roles, ∀ document, cache.get? (roleKey role.roleId) = some document →
    document = role.toJson

/-- The field of a role, `None` where the role does not have it. -/
def Role.field (role : Role) (key : String) : Json :=
  (Entries.get? key (("role_id", .int role.roleId) :: role.fields)).getD .null

/-! ## The keys of the cache -/

variable {roles : List Role} {role : Role} {key : String} {cache : Cache}

theorem roleKey_injective : Function.Injective roleKey := by
  intro a b heq
  have hlist : "apiroleinfo_".toList ++ (toString a).toList =
      "apiroleinfo_".toList ++ (toString b).toList := by
    rw [← String.toList_append, ← String.toList_append]
    exact congrArg String.toList heq
  exact toString_int_injective (String.toList_inj.mp (List.append_cancel_left hlist))

/-- The bare id of a role is no key that a role is stored under: it has no letters. -/
theorem toString_ne_roleKey (id other : ℤ) : toString id ≠ roleKey other := by
  intro heq
  have hmem : 'a' ∈ (toString id).toList := by
    rw [heq, roleKey, String.toList_append]
    -- the key begins with letters, and an id is printed without any
    exact List.mem_append_left _ (by decide)
  rw [toList_toString_int, List.mem_append] at hmem
  rcases hmem with hsign | hdigits
  · split at hsign
    · exact absurd (List.mem_singleton.mp hsign) (by decide)
    · cases hsign
  · have hdigit : 'a'.isDigit = true := Nat.isDigit_of_mem_toDigits (by omega) (by omega) hdigits
    exact absurd hdigit (by decide)

theorem nodup_roleKeys (hdistinct : (roles.map Role.roleId).Nodup) :
    ((roles.map fun role => (roleKey role.roleId, role.toJson)).map Prod.fst).Nodup := by
  have hmap : (roles.map fun role => (roleKey role.roleId, role.toJson)).map Prod.fst =
      (roles.map Role.roleId).map roleKey := by
    rw [List.map_map, List.map_map]
    rfl
  rw [hmap]
  exact hdistinct.map roleKey_injective

theorem get?_cacheRoles_roleKey (hdistinct : (roles.map Role.roleId).Nodup) (hrole : role ∈ roles)
    (cache : Cache) : (cacheRoles roles cache).get? (roleKey role.roleId) = some role.toJson := by
  have hentry : Entries.get? (roleKey role.roleId)
      (roles.map fun role => (roleKey role.roleId, role.toJson)) = some role.toJson :=
    Entries.get?_eq_some_of_mem (nodup_roleKeys hdistinct)
      (List.mem_map.mpr ⟨role, hrole, rfl⟩)
  unfold cacheRoles
  rw [Dict.get?_foldl_set_eq (nodup_roleKeys hdistinct), hentry]
  rfl

theorem get?_cacheRoles_toString (hdistinct : (roles.map Role.roleId).Nodup) (id : ℤ)
    (cache : Cache) : (cacheRoles roles cache).get? (toString id) = cache.get? (toString id) := by
  have hnone : Entries.get? (toString id)
      (roles.map fun role => (roleKey role.roleId, role.toJson)) = none := by
    rw [Entries.get?_eq_none_iff]
    intro hmem
    obtain ⟨entry, hentry, heq⟩ := List.mem_map.mp hmem
    obtain ⟨other, -, rfl⟩ := List.mem_map.mp hentry
    exact toString_ne_roleKey id other.roleId heq.symm
  unfold cacheRoles
  rw [Dict.get?_foldl_set_eq (nodup_roleKeys hdistinct), hnone]
  rfl

/-! ## Two calls -/

theorem getKey_congr {other : Cache} {id : String} (hget : cache.get? id = other.get? id)
    (key : String) : getKey cache id key = getKey other id key := by
  unfold getKey
  rw [hget]

/-- A stored role has its fields; one that it does not have is `None`. -/
theorem getKey_of_get? {id : String} (hget : cache.get? id = some role.toJson) (key : String) :
    getKey cache id key = .ok (role.field key) := by
  unfold getKey Role.field
  rw [hget]
  cases hentry : Entries.get? key (("role_id", Json.int role.roleId) :: role.fields) with
  | none =>
      have hitem : role.toJson.item key = .error (.keyError key) := by
        unfold Role.toJson Json.item
        simp only [hentry]
      simp only [hitem]
      rfl
  | some value =>
      have hitem : role.toJson.item key = .ok value := Json.item_dict hentry
      simp only [hitem]
      rfl

theorem getRate_of_truthy {id : ℤ} {rate : Json} (hkey : getKey cache (roleKey id) key = .ok rate)
    (htruthy : rate.truthy = true) : getRate roles id key cache = ⟨.ok rate, cache⟩ := by
  unfold getRate
  rw [hkey]
  exact if_pos htruthy

/-- A rate that counts as false is looked for under the bare id, whatever the table says. -/
theorem getRate_of_not_truthy (hdistinct : (roles.map Role.roleId).Nodup) {id : ℤ} {rate : Json}
    (hkey : getKey cache (roleKey id) key = .ok rate) (htruthy : rate.truthy = false) :
    getRate roles id key cache =
      ⟨getKey cache (toString id) key, cacheRoles roles cache⟩ := by
  unfold getRate
  rw [hkey]
  dsimp only
  rw [htruthy, if_neg Bool.false_ne_true,
    getKey_congr (get?_cacheRoles_toString hdistinct id cache) key]

/-- The limit that is applied is that of the value. -/
theorem coldIsWarm_iff_value {id : ℤ} :
    ColdIsWarm roles id key cache ↔ (getRate roles id key cache).value =
      (getRate roles id key (getRate roles id key cache).cache).value := by
  refine ⟨ColdIsWarm.value, fun hvalue => ⟨hvalue, ?_⟩⟩
  rintro rfl isRatelimited
  unfold appliedLimit
  rw [← hvalue]

/-- **A miss returns what the next call returns exactly when the role was cached before, or the
field counts as false, or the cache has the same value under the bare id of the role.** -/
theorem coldIsWarm_iff (hdistinct : (roles.map Role.roleId).Nodup) (hrole : role ∈ roles)
    (hagrees : Agrees cache roles) (key : String) :
    ColdIsWarm roles role.roleId key cache ↔
      cache.get? (roleKey role.roleId) ≠ none ∨ (role.field key).truthy = false ∨
        getKey cache (toString role.roleId) key = .ok (role.field key) := by
  have hstored := getKey_of_get? (get?_cacheRoles_roleKey hdistinct hrole cache) key
  have hbare := getKey_congr (get?_cacheRoles_toString hdistinct role.roleId cache) key
  rw [coldIsWarm_iff_value]
  cases hget : cache.get? (roleKey role.roleId) with
  -- on a miss the first call reads the bare id, the second one what the loop has stored
  | none =>
      have hmiss : getKey cache (roleKey role.roleId) key = .ok .null := by
        unfold getKey
        rw [hget]
      rw [getRate_of_not_truthy hdistinct hmiss rfl]
      dsimp only
      cases htruthy : (role.field key).truthy with
      | false =>
          rw [getRate_of_not_truthy hdistinct hstored htruthy]
          exact iff_of_true hbare.symm (.inr (.inl rfl))
      | true =>
          rw [getRate_of_truthy hstored htruthy]
          simp
  | some document =>
      -- on a hit both calls read one document, and fall back alike if the field counts as false
      obtain rfl := hagrees role hrole document hget
      have hhit := getKey_of_get? hget key
      refine iff_of_true ?_ (.inl (Option.some_ne_none _))
      cases htruthy : (role.field key).truthy with
      | false =>
          rw [getRate_of_not_truthy hdistinct hhit htruthy]
          dsimp only
          rw [getRate_of_not_truthy hdistinct hstored htruthy]
          exact hbare.symm
      | true =>
          rw [getRate_of_truthy hhit htruthy]
          dsimp only
          rw [getRate_of_truthy hhit htruthy]

/-- Two roles with their limits. -/
def sampleRoles : List Role :=
  [⟨3, [("catv_rate_limit", .str "10/m")]⟩, ⟨4, [("catv_rate_limit", .str "60/m")]⟩]

/-- The cache after a lookup for one of the roles. -/
def warmCache : Cache :=
  cacheRoles sampleRoles .empty

theorem coldIsWarm_warmCache : ColdIsWarm sampleRoles 3 "catv_rate_limit" warmCache := by
  have hdistinct : (sampleRoles.map Role.roleId).Nodup := by decide
  refine (coldIsWarm_iff hdistinct List.mem_cons_self ?_ "catv_rate_limit").mpr (.inl ?_)
  · intro role hrole document hget
    have hstored := get?_cacheRoles_roleKey hdistinct hrole .empty
    exact Option.some.inj (hget.symm.trans hstored)
  · rw [warmCache, get?_cacheRoles_roleKey hdistinct List.mem_cons_self]
    exact Option.some_ne_none _

/-- On the empty cache the first call returns no limit, and the second one `10/m`. -/
theorem not_coldIsWarm_empty : ¬ ColdIsWarm sampleRoles 3 "catv_rate_limit" .empty := by
  intro hsame
  have hfirst : (getRate sampleRoles 3 "catv_rate_limit" .empty).value = .ok .null := rfl
  have hsecond : (getRate sampleRoles 3 "catv_rate_limit"
      (getRate sampleRoles 3 "catv_rate_limit" .empty).cache).value = .ok (.str "10/m") := rfl
  have hvalue := hsame.value
  rw [hfirst, hsecond] at hvalue
  cases hvalue

end CatvService.RateLookup
