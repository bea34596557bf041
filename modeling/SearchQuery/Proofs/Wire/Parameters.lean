import SearchQuery.Json.Parser
import SearchQuery.Proofs.Json.Paths
import SearchQuery.Proofs.Plan.Contribution
import SearchQuery.Wire.Address

/-!
# Reading the parameters of an address

The parameters of the address form are read back from its query: parts between ampersands, each a
name up to its first equals sign and a percent-encoded value behind it.

* `Percent.decode?`: the text that a percent-encoded one stands for, through the bytes of its UTF-8
  form. `Percent.decode?_encode`: it is the one that was encoded, whatever its characters.
* `Percent.ampersand_notMem_encode`: an encoded text does not part the parameters.
* `SearchRequest.getUri_readsBack`: so the address tells its parameters, in their order.
-/

namespace SearchQuery

/-! ### Percent encoding -/

namespace Percent

/-- The bytes that an encoded text stands for: a percent sign takes two hexadecimal digits to one
byte, any other character stands for those of its UTF-8 form. -/
def decodeBytes? : List Char → Option (List UInt8)
  | [] => some []
  | '%' :: high :: low :: rest => do
    let h ← Json.hexValue high
    let l ← Json.hexValue low
    return UInt8.ofNat (16 * h + l) :: (← decodeBytes? rest)
  | '%' :: _ => none
  | c :: rest => (decodeBytes? rest).map (String.utf8EncodeChar c ++ ·)

/-- The text that an encoded text stands for. -/
def decode? (text : String) : Option String :=
  (decodeBytes? text.toList).bind fun bytes => String.fromUTF8? bytes.toByteArray

theorem hexValue_hexDigit : ∀ n < 16, Json.hexValue (hexDigit n) = some n := by decide

/-- A byte that stands for itself is an ASCII character other than the percent sign. -/
theorem utf8EncodeChar_of_isUnreserved :
    ∀ n < 256, isUnreserved (UInt8.ofNat n) = true →
      String.utf8EncodeChar (Char.ofNat n) = [UInt8.ofNat n] ∧ Char.ofNat n ≠ '%' := by
  decide +kernel

theorem decodeBytes?_cons {c : Char} (h : c ≠ '%') (rest : List Char) :
    decodeBytes? (c :: rest) = (decodeBytes? rest).map (String.utf8EncodeChar c ++ ·) := by
  rw [decodeBytes?]
  · rintro high low rest' rfl
    exact absurd rfl h
  · rintro rfl
    exact absurd rfl h

theorem decodeBytes?_encodeByte (b : UInt8) (rest : List Char) :
    decodeBytes? (encodeByte b ++ rest) = (decodeBytes? rest).map (b :: ·) := by
  have hlt : b.toNat < 256 := b.toNat_lt_size
  have hself : UInt8.ofNat b.toNat = b := UInt8.ofNat_toNat
  unfold encodeByte
  split_ifs with h
  · rw [← hself] at h
    obtain ⟨hbytes, hpercent⟩ := utf8EncodeChar_of_isUnreserved b.toNat hlt h
    rw [List.singleton_append, decodeBytes?_cons hpercent, hbytes, hself]
    rfl
  · have hhigh : Json.hexValue (hexDigit (b.toNat / 16)) = some (b.toNat / 16) :=
      hexValue_hexDigit _ (by omega)
    have hlow : Json.hexValue (hexDigit (b.toNat % 16)) = some (b.toNat % 16) :=
      hexValue_hexDigit _ (by omega)
    have hwhole : UInt8.ofNat (16 * (b.toNat / 16) + b.toNat % 16) = b := by
      rw [Nat.div_add_mod, hself]
    simp only [List.cons_append, List.nil_append, decodeBytes?, hhigh, hlow]
    show (decodeBytes? rest).bind (fun bytes => some (UInt8.ofNat _ :: bytes)) = _
    rw [hwhole]
    cases decodeBytes? rest <;> rfl

theorem decodeBytes?_flatMap (bytes : List UInt8) (rest : List Char) :
    decodeBytes? (bytes.flatMap encodeByte ++ rest) = (decodeBytes? rest).map (bytes ++ ·) := by
  induction bytes with
  | nil => simp
  | cons b bytes ih =>
    rw [List.flatMap_cons, List.append_assoc, decodeBytes?_encodeByte, ih, Option.map_map]
    rfl

theorem decodeBytes?_encodeChars (cs : List Char) :
    decodeBytes? (encodeChars cs) = some (cs.flatMap String.utf8EncodeChar) := by
  have hflat : encodeChars cs = (cs.flatMap String.utf8EncodeChar).flatMap encodeByte := by
    rw [List.flatMap_assoc]
    rfl
  have hbytes := decodeBytes?_flatMap (cs.flatMap String.utf8EncodeChar) []
  rw [List.append_nil, decodeBytes?, Option.map_some, List.append_nil] at hbytes
  rw [hflat, hbytes]

theorem fromUTF8?_utf8Encode (cs : List Char) :
    String.fromUTF8? (cs.flatMap String.utf8EncodeChar).toByteArray = some (String.ofList cs) := by
  have hvalid : (cs.flatMap String.utf8EncodeChar).toByteArray.IsValidUTF8 := ⟨cs, rfl⟩
  unfold String.fromUTF8?
  rw [dif_pos (by simpa using hvalid)]
  rfl

/-- **Percent encoding is read back.** -/
theorem decode?_encode (text : String) : decode? (encode text) = some text := by
  rw [decode?, encode, String.toList_ofList, decodeBytes?_encodeChars, Option.bind_some,
    fromUTF8?_utf8Encode, String.ofList_toList]

theorem ampersand_notMem_encodeByte : ∀ n < 256, '&' ∉ encodeByte (UInt8.ofNat n) := by
  decide +kernel

theorem ampersand_notMem_encode (text : String) : '&' ∉ (encode text).toList := by
  rw [encode, String.toList_ofList, encodeChars]
  intro h
  obtain ⟨c, -, h⟩ := List.mem_flatMap.1 h
  obtain ⟨b, -, h⟩ := List.mem_flatMap.1 h
  have hbyte := ampersand_notMem_encodeByte b.toNat b.toNat_lt_size
  rw [UInt8.ofNat_toNat] at hbyte
  exact hbyte h

end Percent

/-! ### Parameters -/

namespace SearchRequest

/-- A parameter: its name up to the first equals sign, and its value, which is encoded. -/
def readParameter? (part : String) : Option (String × String) :=
  match part.toList.dropWhile (· ≠ '=') with
  | '=' :: value =>
    (Percent.decode? (String.ofList value)).map fun v =>
      (String.ofList (part.toList.takeWhile (· ≠ '=')), v)
  | _ => none

/-- The parameters of the query of an address. -/
def readParameters? (query : String) : Option (List (String × String)) :=
  (Text.split '&' query).mapM readParameter?

/-- A name neither ends early nor joins two parameters. -/
def IsParameterName (name : String) : Prop := '=' ∉ name.toList ∧ '&' ∉ name.toList

theorem readParameter?_eq {name : String} (h : IsParameterName name) (value : String) :
    readParameter? (name ++ "=" ++ Percent.encode value) = some (name, value) := by
  have hchars : (name ++ "=" ++ Percent.encode value).toList =
      name.toList ++ '=' :: (Percent.encode value).toList := by simp
  have hname : ∀ c ∈ name.toList, decide (c ≠ '=') = true := by
    intro c hc
    rw [decide_eq_true_iff]
    rintro rfl
    exact h.1 hc
  rw [readParameter?, hchars, List.dropWhile_append_of_pos hname,
    List.takeWhile_append_of_pos hname]
  simp [Percent.decode?_encode]

variable {m : FieldMapping} {config : ConnectionConfig} {request : SearchRequest}
  {parameters : List (String × String)}

theorem isParameterName_of_mem (h : request.parameters config m = .ok parameters) :
    ∀ p ∈ parameters, IsParameterName p.1 := by
  have hparameter : ∀ (name : String) (value : Option String), IsParameterName name →
      ∀ p ∈ parameter name value, IsParameterName p.1 := by
    intro name value hname p hp
    cases value with
    | none => cases hp
    | some v =>
      obtain rfl := List.mem_singleton.1 hp
      exact hname
  obtain ⟨q, -, h⟩ := bind_eq_ok.1 h
  obtain rfl := pure_eq_ok.1 h
  simp only [List.forall_mem_append]
  refine ⟨⟨⟨⟨⟨⟨?_, ?_⟩, ?_⟩, ?_⟩, ?_⟩, ?_⟩, ?_⟩ <;>
    exact hparameter _ _ ⟨by decide, by decide⟩

theorem readParameters?_join (hne : parameters ≠ [])
    (hnames : ∀ p ∈ parameters, IsParameterName p.1) :
    readParameters? (Text.join "&" (parameters.map fun p => p.1 ++ "=" ++ Percent.encode p.2)) =
      some parameters := by
  have hparts : ∀ part ∈ parameters.map (fun p => p.1 ++ "=" ++ Percent.encode p.2),
      '&' ∉ part.toList := by
    intro part hpart
    obtain ⟨p, hp, rfl⟩ := List.mem_map.1 hpart
    simp [(hnames p hp).2, Percent.ampersand_notMem_encode]
  have hsplit := Text.split_join (by simpa using hne) hparts
  rw [readParameters?, show "&" = String.singleton '&' from rfl, hsplit]
  clear hne hparts hsplit
  induction parameters with
  | nil => rfl
  | cons p rest ih =>
    rw [List.forall_mem_cons] at hnames
    rw [List.map_cons, List.mapM_cons, readParameter?_eq hnames.1, ih hnames.2]
    rfl

/-- **The address tells its parameters.** Without parameters it is the path of the search. With
parameters a query follows the path, and what is read from the query are the parameters, in their
order, whatever characters their values have. -/
theorem getUri_readsBack (h : request.parameters config m = .ok parameters) :
    (parameters = [] → request.getUri config m = .ok (request.path config)) ∧
    (parameters ≠ [] → ∃ query,
      request.getUri config m = .ok (request.path config ++ "?" ++ query) ∧
      readParameters? query = some parameters) := by
  have huri : request.getUri config m = .ok (withParameters (request.path config) parameters) := by
    rw [getUri, h]
    rfl
  refine ⟨?_, fun hne => ⟨_, ?_, readParameters?_join hne (isParameterName_of_mem h)⟩⟩
  · rintro rfl
    exact huri
  · rw [huri, withParameters, if_neg (by simpa using hne)]

end SearchRequest

namespace Film

/-- A search for a text with separators, an escape and letters of several bytes. -/
def crossingNames : SearchRequest :=
  { SearchRequest.empty with
    query := some (.text "Amélie & 100% + 夜=?")
    fields := ["title", "größe&"]
    sortOptions := [⟨"naïveté%41", false, true⟩]
    skipped := 3 }

def crossingParameters : List (String × String) :=
  [("q", "(Amélie & 100% + 夜=?)"), ("fields", "title,größe&"), ("sort", "naïveté%41:desc"),
    ("from", "3")]

end Film

namespace SearchRequest

/-- Separators in the values do not part them, and an escape in a key is no escape of the key. -/
theorem getUri_readsBack_crossing :
    Film.crossingNames.parameters .standard Film.mapping = .ok Film.crossingParameters ∧
      (∃ query, Film.crossingNames.getUri .standard Film.mapping =
          .ok ("http://localhost:9200/_all/_search" ++ "?" ++ query) ∧
        readParameters? query = some Film.crossingParameters) ∧
      empty.parameters .standard Film.mapping = .ok [] ∧
      empty.getUri .standard Film.mapping = .ok "http://localhost:9200/_all/_search" := by
  have hparameters : Film.crossingNames.parameters .standard Film.mapping =
      .ok Film.crossingParameters := toOption_eq_some.1 (by decide)
  have hnone : empty.parameters .standard Film.mapping = .ok [] :=
    toOption_eq_some.1 (by decide)
  have hpath : Film.crossingNames.path .standard = "http://localhost:9200/_all/_search" := by decide
  have hpath' : empty.path .standard = "http://localhost:9200/_all/_search" := by decide
  have hread := (getUri_readsBack hparameters).2 (by decide)
  have hempty := (getUri_readsBack hnone).1 rfl
  rw [hpath] at hread
  rw [hpath'] at hempty
  exact ⟨hparameters, hread, hnone, hempty⟩

end SearchRequest

end SearchQuery
