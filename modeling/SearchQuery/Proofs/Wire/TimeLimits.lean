import Mathlib.Algebra.Group.Nat.Defs
import Mathlib.Algebra.Ring.Int.Defs
import SearchQuery.Proofs.Wire.FacetFilter
import SearchQuery.Wire.Address

/-!
# Time limits on the wire

A time limit is sent in the largest unit that holds it, as a number or as a text, and in two forms.

* `Timeout.ofBody?`, `Timeout.ofText?`: how many milliseconds either form stands for.
* `Timeout.ofMillis?_eq_none_iff`, `Timeout.total_of_ofMillis?`: a limit is left out just where it is
  zero, and otherwise put into a unit exactly.
* `SearchRequest.timeout_exact`: so what is sent tells the limit.
-/

namespace SearchQuery

namespace Timeout

/-! ### Reading time limits -/

/-- The number that decimal digits stand for. -/
def readDigits? (digits : List Char) : Option Nat :=
  if digits.isEmpty then none else some (Nat.ofDigitChars 10 digits 0)

/-- The milliseconds of a number in one of the units. -/
def readIn? (units : List (String × Nat)) (text : String) : Option Nat := do
  let n ← readDigits? (text.toList.takeWhile Char.isDigit)
  let factor ← units.lookup (String.ofList (text.toList.dropWhile Char.isDigit))
  return n * factor

/-- The units of texts in a body, in milliseconds. -/
def bodyUnits : List (String × Nat) := [("s", 1000), ("m", 60000)]

/-- The milliseconds of a time limit in a body: a number counts them, a text has a unit. -/
def ofBody? : Json → Option Nat
  | .str text => readIn? bodyUnits text
  | v => v.nat64?

/-- The milliseconds of a time limit in an address. -/
def ofText? (text : String) : Option Nat := readIn? (("ms", 1) :: bodyUnits) text

/-- The milliseconds of a time limit. -/
def total : Timeout → Nat
  | .millis n => n
  | .seconds n => n * 1000
  | .minutes n => n * 60000

/-- A number is read up to its unit. -/
theorem readIn?_toString {units : List (String × Nat)} {unit : String} {factor : Nat} (n : Nat)
    (hunit : units.lookup unit = some factor) (hdigits : unit.toList.any Char.isDigit = false) :
    readIn? units (toString n ++ unit) = some (n * factor) := by
  have hchars : (toString n ++ unit).toList = Nat.toDigits 10 n ++ unit.toList := by simp
  have hnumber : ∀ c ∈ Nat.toDigits 10 n, c.isDigit = true := fun c hc =>
    Nat.isDigit_of_mem_toDigits (by decide) (by decide) hc
  have htake : unit.toList.takeWhile Char.isDigit = [] := by
    cases hunit' : unit.toList with
    | nil => rfl
    | cons c rest =>
      have hfirst : c.isDigit = false := by
        rw [hunit', List.any_cons, Bool.or_eq_false_iff] at hdigits
        exact hdigits.1
      simp [hfirst]
  have hdrop : unit.toList.dropWhile Char.isDigit = unit.toList := by
    have hparts : unit.toList.takeWhile Char.isDigit ++ unit.toList.dropWhile Char.isDigit =
        unit.toList := List.takeWhile_append_dropWhile
    rwa [htake] at hparts
  rw [readIn?, hchars, List.takeWhile_append_of_pos hnumber, List.dropWhile_append_of_pos hnumber,
    htake, hdrop, List.append_nil, String.ofList_toList, hunit]
  simp [readDigits?, Nat.ofDigitChars_ten_toDigits]

theorem ofText?_text (t : Timeout) : ofText? t.text = some t.total := by
  cases t with
  | millis n =>
    have hread : ofText? (toString n ++ "ms") = some (n * 1) := readIn?_toString n rfl rfl
    rwa [Nat.mul_one] at hread
  | seconds n => exact readIn?_toString n rfl rfl
  | minutes n => exact readIn?_toString n rfl rfl

theorem ofBody?_toJson {t : Timeout} (h : t.total < 2 ^ 64) : ofBody? t.toJson = some t.total := by
  cases t with
  | millis n =>
    have hbound : (n : Int) < Int.pow 2 64 := Int.ofNat_lt.2 h
    show (if 0 ≤ (n : Int) ∧ (n : Int) < Int.pow 2 64 then some (n : Int).toNat else none) = some n
    rw [if_pos ⟨Int.natCast_nonneg n, hbound⟩]
    rfl
  | seconds n => exact readIn?_toString n rfl rfl
  | minutes n => exact readIn?_toString n rfl rfl

/-! ### Units -/

theorem ofMillis?_eq_none_iff {millis : Nat} : ofMillis? millis = none ↔ millis = 0 := by
  unfold ofMillis?
  split_ifs <;> simp_all

/-- Dividing by a unit leaves nothing over where the unit is taken. -/
theorem total_of_ofMillis? {millis : Nat} {t : Timeout} (hrange : millis < 2 ^ 64)
    (h : ofMillis? millis = some t) : t.total = millis := by
  unfold ofMillis? at h
  split_ifs at h with hzero hmillis hseconds
  · obtain rfl := Option.some.inj h
    exact Nat.mod_eq_of_lt hrange
  · obtain rfl := Option.some.inj h
    simp only [total]
    omega
  · obtain rfl := Option.some.inj h
    simp only [total]
    omega

/-- What is sent for a limit, if anything, is read as that limit; nothing is sent for none. -/
structure Tells {α : Type} (read : α → Option Nat) (sent : Option α) (limit : Nat) : Prop where
  absent : sent = none ↔ limit = 0
  exact : ∀ v, sent = some v → read v = some limit

/-- What is sent tells one limit only. -/
theorem Tells.unique {α : Type} {read : α → Option Nat} {sent : Option α} {limit limit' : Nat}
    (h : Tells read sent limit) (h' : Tells read sent limit') : limit = limit' := by
  cases hsent : sent with
  | none => rw [h.absent.1 hsent, h'.absent.1 hsent]
  | some v => exact Option.some.inj ((h.exact v hsent).symm.trans (h'.exact v hsent))

theorem tells_map {α : Type} {read : α → Option Nat} {write : Timeout → α} {limit : Nat}
    (hrange : limit < 2 ^ 64)
    (hread : ∀ t : Timeout, t.total < 2 ^ 64 → read (write t) = some t.total) :
    Tells read ((ofMillis? limit).map write) limit where
  absent := by rw [Option.map_eq_none_iff, ofMillis?_eq_none_iff]
  exact v hv := by
    obtain ⟨t, ht, rfl⟩ := Option.map_eq_some_iff.1 hv
    have htotal := total_of_ofMillis? hrange ht
    rw [hread t (htotal ▸ hrange), htotal]

end Timeout

/-! ### Requests -/

namespace SearchRequest

variable {m m' : FieldMapping} {config config' : ConnectionConfig}
  {request request' : SearchRequest} {body : Json} {parameters : List (String × String)}

theorem toBody_timeout (h : request.toBody config m = .ok body) :
    body.member? "timeout" = (Timeout.ofMillis? config.timeoutMillis).map Timeout.toJson := by
  obtain ⟨query, -, h⟩ := bind_eq_ok.1 h
  obtain ⟨filter, -, h⟩ := bind_eq_ok.1 h
  obtain ⟨facets, -, h⟩ := bind_eq_ok.1 h
  obtain rfl := pure_eq_ok.1 h
  simp only [Json.member?, List.lookup_append, lookup_bodyMember]
  simp

theorem lookup_parameter (key name : String) (value : Option String) :
    (parameter name value).lookup key = if key = name then value else none := by
  cases value with
  | none => simp [parameter]
  | some v => rw [parameter, lookup_cons_eq_ite, List.lookup_nil]

theorem parameters_timeout (h : request.parameters config m = .ok parameters) :
    parameters.lookup "timeout" =
      (Timeout.ofMillis? config.timeoutMillis).map Timeout.text := by
  obtain ⟨q, -, h⟩ := bind_eq_ok.1 h
  obtain rfl := pure_eq_ok.1 h
  simp only [List.lookup_append, lookup_parameter]
  simp

/-- **Time limits are sent exactly.** For a limit of zero milliseconds neither form has a member or
a parameter, and for any other limit of 64 bits both stand for just that many milliseconds. So the
time limits of two searches are sent alike only where they are the same. -/
theorem timeout_exact (hlimit : config.timeoutMillis < 2 ^ 64)
    (hlimit' : config'.timeoutMillis < 2 ^ 64) :
    (∀ body, request.toBody config m = .ok body →
      Timeout.Tells Timeout.ofBody? (body.member? "timeout") config.timeoutMillis) ∧
    (∀ parameters, request.parameters config m = .ok parameters →
      Timeout.Tells Timeout.ofText? (parameters.lookup "timeout") config.timeoutMillis) ∧
    (∀ body body', request.toBody config m = .ok body → request'.toBody config' m' = .ok body' →
      (body.member? "timeout" = body'.member? "timeout" ↔
        config.timeoutMillis = config'.timeoutMillis)) ∧
    ∀ parameters parameters', request.parameters config m = .ok parameters →
      request'.parameters config' m' = .ok parameters' →
      (parameters.lookup "timeout" = parameters'.lookup "timeout" ↔
        config.timeoutMillis = config'.timeoutMillis) := by
  have hbody : ∀ limit, limit < 2 ^ 64 →
      Timeout.Tells Timeout.ofBody? ((Timeout.ofMillis? limit).map Timeout.toJson) limit :=
    fun limit h => Timeout.tells_map h fun t => Timeout.ofBody?_toJson
  have htext : ∀ limit, limit < 2 ^ 64 →
      Timeout.Tells Timeout.ofText? ((Timeout.ofMillis? limit).map Timeout.text) limit :=
    fun limit h => Timeout.tells_map h fun t _ => Timeout.ofText?_text t
  refine ⟨?_, ?_, ?_, ?_⟩
  · intro body h
    rw [toBody_timeout h]
    exact hbody _ hlimit
  · intro parameters h
    rw [parameters_timeout h]
    exact htext _ hlimit
  · intro body body' h h'
    rw [toBody_timeout h, toBody_timeout h']
    constructor
    · intro hsame
      exact (hbody _ hlimit).unique (hsame ▸ hbody _ hlimit')
    · intro hsame
      rw [hsame]
  · intro parameters parameters' h h'
    rw [parameters_timeout h, parameters_timeout h']
    constructor
    · intro hsame
      exact (htext _ hlimit).unique (hsame ▸ htext _ hlimit')
    · intro hsame
      rw [hsame]

end SearchRequest

def ConnectionConfig.limitedTo (millis : Nat) : ConnectionConfig :=
  { ConnectionConfig.standard with timeoutMillis := millis }

namespace SearchRequest

/-- The longest limit is no whole number of seconds; two minutes are sent in minutes. -/
theorem timeout_exact_longest :
    2 ^ 64 - 1 < 2 ^ 64 ∧ 120000 < 2 ^ 64 ∧
      ∃ body body' parameters,
        Film.countsAfter1970.toBody (.limitedTo (2 ^ 64 - 1)) Film.mapping = .ok body ∧
        body.member? "timeout" = some (.int (2 ^ 64 - 1)) ∧
        Timeout.Tells Timeout.ofBody? (body.member? "timeout") (2 ^ 64 - 1) ∧
        empty.toBody (.limitedTo 120000) Film.mapping = .ok body' ∧
        body'.member? "timeout" = some (.str "2m") ∧
        body.member? "timeout" ≠ body'.member? "timeout" ∧
        Film.countsAfter1970.parameters (.limitedTo (2 ^ 64 - 1)) Film.mapping = .ok parameters ∧
        parameters.lookup "timeout" = some "18446744073709551615ms" ∧
        Timeout.Tells Timeout.ofText? (parameters.lookup "timeout") (2 ^ 64 - 1) := by
  have hbody : (Film.countsAfter1970.toBody (.limitedTo (2 ^ 64 - 1)) Film.mapping).toOption.map
      (·.member? "timeout") = some (some (.int (2 ^ 64 - 1))) := by decide
  have hbody' : (empty.toBody (.limitedTo 120000) Film.mapping).toOption.map
      (·.member? "timeout") = some (some (.str "2m")) := by decide
  have hparameters : (Film.countsAfter1970.parameters (.limitedTo (2 ^ 64 - 1))
      Film.mapping).toOption.map (·.lookup "timeout") = some (some "18446744073709551615ms") := by
    decide
  obtain ⟨body, hbody, hsent⟩ := Option.map_eq_some_iff.1 hbody
  obtain ⟨body', hbody', hsent'⟩ := Option.map_eq_some_iff.1 hbody'
  obtain ⟨parameters, hparameters, htext⟩ := Option.map_eq_some_iff.1 hparameters
  rw [toOption_eq_some] at hbody hbody' hparameters
  have hlong : (ConnectionConfig.limitedTo (2 ^ 64 - 1)).timeoutMillis < 2 ^ 64 := by decide
  have hshort : (ConnectionConfig.limitedTo 120000).timeoutMillis < 2 ^ 64 := by decide
  obtain ⟨htells, htold, hapart, -⟩ := @timeout_exact Film.mapping Film.mapping _ _
    Film.countsAfter1970 empty hlong hshort
  refine ⟨hlong, hshort, body, body', parameters, hbody, hsent, htells body hbody, hbody', hsent',
    fun hsame => ?_, hparameters, htext, htold parameters hparameters⟩
  have hlimits := (hapart body body' hbody hbody').1 hsame
  revert hlimits
  decide

end SearchRequest

end SearchQuery
