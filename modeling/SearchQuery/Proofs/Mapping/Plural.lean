import SearchQuery.Mapping.Basic
import SearchQuery.Proofs.Text.LowerCase

/-!
# Document types in the plural

The plural of a name is told from its lower case, but cut from the name itself: a final `y` is taken
off as the last byte. In bytes the two may differ in length.

* `Text.takeBytes?_append`, `Text.dropLastByte?_push`: a text is cut behind any part of it, and so
  before a last character of one byte.
* `Text.exists_lowerFrom_append`: lower case goes over a text part by part, so that its last
  characters come from the last character.
* `Text.eq_push_of_endsWith_y`: a text that ends in `y` in lower case ends in that letter.
* `MappingOptions.documentType?_eq_some`: so every document type has a name, and the cut takes just
  the last character off.
-/

namespace SearchQuery

namespace Text

variable {text front : String} {c : Char} {before cs rest : List Char}

/-! ### Cuts -/

theorem takeBytes?_append (front back : String) :
    takeBytes? (front ++ back) front.utf8ByteSize = some front := by
  have hvalid : (String.Pos.Raw.mk front.utf8ByteSize).IsValid (front ++ back) :=
    String.Pos.Raw.isValid_rawEndPos.append_right back
  rw [takeBytes?, dif_pos hvalid]
  exact congrArg some String.Pos.splits_append_rawEndPos.copy_sliceTo_eq

theorem utf8ByteSize_push_sub_one (front : String) (h : c.utf8Size = 1) :
    (front.push c).utf8ByteSize - 1 = front.utf8ByteSize := by
  rw [String.utf8ByteSize_push, h, Nat.add_sub_cancel]

/-- A character that has one byte is taken off with it. -/
theorem dropLastByte?_push (front : String) (h : c.utf8Size = 1) :
    dropLastByte? (front.push c) = some front := by
  rw [dropLastByte?, if_neg (by simp), utf8ByteSize_push_sub_one front h, String.push_eq_append]
  exact takeBytes?_append front _

/-- In front of a character of one byte a character ends. -/
theorem isValid_push (front : String) (h : c.utf8Size = 1) :
    (String.Pos.Raw.mk ((front.push c).utf8ByteSize - 1)).IsValid (front.push c) := by
  rw [utf8ByteSize_push_sub_one front h, String.push_eq_append]
  exact String.Pos.Raw.isValid_rawEndPos.append_right _

/-- A character of several bytes is not cut. -/
example : dropLastByte? "Φ" = none ∧ dropLastByte? "" = none ∧ dropLastByte? "Φy" = some "Φ" := by
  decide

/-! ### The end of a text in lower case -/

/-- A part of a text is lower-cased behind the one before it. -/
theorem exists_lowerFrom_append (before cs rest : List Char) :
    ∃ front, lowerFrom before (cs ++ rest) = front ++ lowerFrom (cs.reverse ++ before) rest := by
  induction cs generalizing before with
  | nil => exact ⟨[], rfl⟩
  | cons c cs ih =>
    obtain ⟨front, hfront⟩ := ih (c :: before)
    rw [List.cons_append, lowerFrom_cons, hfront, ← List.append_assoc, List.reverse_cons,
      List.append_assoc cs.reverse]
    exact ⟨_, rfl⟩

theorem lowerFrom_singleton_ne_nil (before : List Char) (c : Char) : lowerFrom before [c] ≠ [] := by
  rw [lowerFrom_cons, lowerFrom, List.append_nil]
  split_ifs
  · exact List.cons_ne_nil _ _
  · exact List.cons_ne_nil _ _
  · exact lowerChar_ne_nil c

theorem eq_of_y_mem_lowerFrom_singleton (h : 'y' ∈ lowerFrom before [c]) : c = 'y' ∨ c = 'Y' := by
  rw [lowerFrom_cons, lowerFrom, List.append_nil] at h
  split_ifs at h
  · exact absurd h (by decide)
  · exact absurd h (by decide)
  · exact eq_of_y_mem_lowerChar h

/-- Only a text that ends in the letter y, small or capital, does so in lower case. -/
theorem eq_push_of_endsWith_y (h : endsWith (lower text) "y" = true) :
    ∃ front c, text = String.push front c ∧ (c = 'y' ∨ c = 'Y') := by
  have hlast : (lowerFrom [] text.toList).getLast? = some 'y' := by
    rw [endsWith, toList_lower, List.isSuffixOf_iff_suffix] at h
    exact List.singleton_suffix_iff_getLast?_eq_some.1 h
  rcases List.eq_nil_or_concat text.toList with hnil | ⟨cs, c, hchars⟩
  · rw [hnil] at hlast
    cases hlast
  · obtain ⟨front, hfront⟩ := exists_lowerFrom_append [] cs [c]
    rw [hchars, List.concat_eq_append, hfront,
      List.getLast?_append_of_ne_nil _ (lowerFrom_singleton_ne_nil _ c)] at hlast
    refine ⟨String.ofList cs, c, ?_, eq_of_y_mem_lowerFrom_singleton (List.mem_of_getLast? hlast)⟩
    rw [← String.toList_inj, hchars, List.concat_eq_append, String.toList_push,
      String.toList_ofList]

end Text

/-! ### Plurals -/

namespace Naming

variable {name : String}

/-- The name without its last character. -/
def withoutLast (name : String) : String := String.ofList name.toList.dropLast

theorem withoutLast_push (front : String) (c : Char) : withoutLast (front.push c) = front := by
  rw [withoutLast, String.toList_push, List.dropLast_concat, String.ofList_toList]

/-- Before a final `y`, as lower case shows it, there is a place for the cut. -/
theorem dropLastByte?_of_endsWith_y (h : Text.endsWith (Text.lower name) "y" = true) :
    0 < name.utf8ByteSize ∧ (String.Pos.Raw.mk (name.utf8ByteSize - 1)).IsValid name ∧
      Text.dropLastByte? name = some (withoutLast name) := by
  obtain ⟨front, c, rfl, hc⟩ := Text.eq_push_of_endsWith_y h
  have hsize : c.utf8Size = 1 := by
    rcases hc with rfl | rfl <;> decide
  refine ⟨?_, Text.isValid_push front hsize, ?_⟩
  · rw [String.utf8ByteSize_push, hsize]
    exact Nat.succ_pos _
  · rw [withoutLast_push]
    exact Text.dropLastByte?_push front hsize

theorem pluralize?_of_takesIes (h : takesIes name = true) :
    pluralize? name = some (withoutLast name ++ "ies") := by
  have hy : Text.endsWith (Text.lower name) "y" = true := by
    rw [takesIes, Bool.and_eq_true] at h
    exact h.1
  rw [pluralize?, if_pos h, (dropLastByte?_of_endsWith_y hy).2.2]
  rfl

/-- Every name has a plural. -/
theorem exists_pluralize?_eq_some (name : String) : ∃ plural, pluralize? name = some plural := by
  by_cases h : takesIes name = true
  · exact ⟨_, pluralize?_of_takesIes h⟩
  · rw [pluralize?, if_neg h]
    split_ifs <;> exact ⟨_, rfl⟩

end Naming

namespace MappingOptions

/-- **Every document type has a name.** Where the lower case of a name ends in `y`, the name has a last
byte, a character ends in front of that byte, and what is left is the name without its last character.
So the name of a document type is always formed, and where `ies` is put to it, it is put to the type
name without its last character. -/
theorem documentType?_eq_some :
    (∀ name, Text.endsWith (Text.lower name) "y" = true →
      0 < name.utf8ByteSize ∧ (String.Pos.Raw.mk (name.utf8ByteSize - 1)).IsValid name ∧
        Text.dropLastByte? name = some (Naming.withoutLast name)) ∧
    (∀ (options : MappingOptions) (type : DocumentType),
      options.documentType? type = some (options.documentType type)) ∧
    ∀ (options : MappingOptions) (type : DocumentType), options.pluralizeTypeNames = true →
      Naming.takesIes (options.typeName type) = true →
        options.documentType type = Naming.withoutLast (options.typeName type) ++ "ies" := by
  refine ⟨fun name => Naming.dropLastByte?_of_endsWith_y, ?_, ?_⟩
  · intro options type
    have hformed : ∃ name, options.documentType? type = some name := by
      rw [documentType?]
      split_ifs
      · exact Naming.exists_pluralize?_eq_some _
      · exact ⟨_, rfl⟩
    obtain ⟨name, hname⟩ := hformed
    rw [documentType, hname]
    rfl
  · intro options type hplural hies
    rw [documentType, documentType?, if_pos hplural, Naming.pluralize?_of_takesIes hies]
    rfl

/-- The lower case of this name is a byte longer than the name. -/
theorem documentType?_eq_some_dotted :
    (Text.lower "İΣY").utf8ByteSize = "İΣY".utf8ByteSize + 1 ∧
      Text.endsWith (Text.lower "İΣY") "y" = true ∧
      (0 < "İΣY".utf8ByteSize ∧ (String.Pos.Raw.mk ("İΣY".utf8ByteSize - 1)).IsValid "İΣY" ∧
        Text.dropLastByte? "İΣY" = some "İΣ") ∧
      { standard with camelCaseTypeNames := false }.documentType? ⟨"İΣY", []⟩ = some "İΣies" ∧
      standard.documentType ⟨"İΣY", []⟩ = "i̇σies" := by
  have hsmall : Text.endsWith (Text.lower "İΣY") "y" = true := by decide +kernel
  obtain ⟨hcut, htotal, hies⟩ := documentType?_eq_some
  have hverbatim := hies { standard with camelCaseTypeNames := false } ⟨"İΣY", []⟩ rfl
    (by decide +kernel)
  have hcamel := hies standard ⟨"İΣY", []⟩ rfl (by decide)
  refine ⟨by decide +kernel, hsmall, hcut "İΣY" hsmall, ?_, hcamel.trans (by decide +kernel)⟩
  rw [htotal, hverbatim]
  decide

end MappingOptions

end SearchQuery
