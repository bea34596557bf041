import SearchQuery.Proofs.Json.Delimited
import SearchQuery.Proofs.Lucene.Tokens

/-!
# How values are read

What a reader of query syntax makes of the texts that values are written as.

* `closed_value`: the text of a value never leaves anything open.
* `tokens_termText`: a term is one atom without live wildcards, unless it is empty or a keyword.
* `tokens_startsWith_iff`: a prefix is one atom exactly if it holds no white space, since it is
  escaped but never quoted.
* `tokens_slashed_iff`: a pattern between slashes is one atom exactly if none of its own backslashes
  undoes an escape.
-/

namespace SearchQuery

namespace Lucene

variable {stars : Bool} {mode : Mode} {text : List Char}

/-! ### Closed texts -/

/-- Read after something closed, the text leaves nothing open. -/
def KeepsClosed (text : List Char) : Prop :=
  ∀ mode : Mode, mode.isClosed = true → (mode.after text).isClosed = true

namespace KeepsClosed

variable {text' : List Char}

theorem append (h : KeepsClosed text) (h' : KeepsClosed text') : KeepsClosed (text ++ text') := by
  intro mode hmode
  rw [Mode.after_append]
  exact h' _ (h mode hmode)

theorem nil : KeepsClosed [] := fun _ hmode => hmode

theorem cons {c : Char} (h : KeepsClosed [c]) (h' : KeepsClosed text) : KeepsClosed (c :: text) :=
  h.append h'

theorem flatMap {f : Char → List Char} (h : ∀ c, KeepsClosed (f c)) (text : List Char) :
    KeepsClosed (text.flatMap f) := by
  induction text with
  | nil => exact nil
  | cons c text ih =>
    rw [List.flatMap_cons]
    exact (h c).append ih

/-- Only quotes, slashes and backslashes open anything. -/
theorem singleton {c : Char} (h : c ∉ ['"', '/', '\\']) : KeepsClosed [c] := by
  simp only [List.mem_cons, List.not_mem_nil, or_false, not_or] at h
  have hstart : (Mode.start c).isClosed = true := by
    rw [Mode.start, if_neg h.1, if_neg h.2.1, if_neg h.2.2]
    split <;> rfl
  intro mode hmode
  show (mode.next c).isClosed = true
  cases mode with
  | between => exact hstart
  | word read live =>
    rw [Mode.next, if_neg h.2.2]
    split
    · exact hstart
    · rfl
  | _ => cases hmode

theorem of_isWord (h : Json.IsWord text) : KeepsClosed text := by
  induction text with
  | nil => exact nil
  | cons c text ih =>
    have hopens : ∀ d ∈ ['"', '/', '\\'], Json.isWordChar d = false := by
      simp [Json.isWordChar]
    refine cons (singleton fun hmem => ?_) (ih fun d hd => h d (List.mem_cons_of_mem _ hd))
    have hword := h c (List.mem_cons_self ..)
    rw [hopens c hmem] at hword
    cases hword

theorem closed (h : KeepsClosed text) : Closed (String.ofList text) := by
  rw [Closed, String.toList_ofList]
  exact h .between rfl

end KeepsClosed

/-! ### Quoted texts -/

/-- A quoted text is passed over from quote to quote. -/
theorem after_quotes (hbody : Mode.quoted.after text = .quoted) (hmode : mode.isClosed = true) :
    mode.after ('"' :: (text ++ ['"'])) = .between := by
  have hquote : isDelimiter '"' = true := by decide
  rw [Mode.after_cons, (Mode.next_of_isDelimiter false hmode hquote).1]
  show Mode.quoted.after (text ++ ['"']) = .between
  rw [Mode.after_append, hbody]
  rfl

theorem after_quoted_flatMap {f : Char → List Char} (h : ∀ c, Mode.quoted.after (f c) = .quoted)
    (text : List Char) : Mode.quoted.after (text.flatMap f) = .quoted := by
  induction text with
  | nil => rfl
  | cons c text ih => rw [List.flatMap_cons, Mode.after_append, h, ih]

theorem next_quoted {c : Char} (h : c ≠ '"' ∧ c ≠ '\\') : Mode.quoted.next c = .quoted := by
  rw [Mode.next, if_neg h.1, if_neg h.2]

/-- An escaped character of a value in quotes does not end them. -/
theorem after_quoted_escapeChar (c : Char) : Mode.quoted.after (Json.escapeChar c) = .quoted := by
  unfold Json.escapeChar
  split_ifs with hquote hslash _ _ _ _ _ hcontrol
  any_goals rfl
  · have hhigh : c.toNat / 16 < 16 := by omega
    have hlow : c.toNat % 16 < 16 := by omega
    have hfour : ∀ e, Mode.quoted.after ['\\', 'u', '0', '0', e, Nat.digitChar (c.toNat % 16)] =
        (Mode.quoted.next e).next (Nat.digitChar (c.toNat % 16)) := fun _ => rfl
    rw [hfour, next_quoted (Json.digitChar_ne hhigh), next_quoted (Json.digitChar_ne hlow)]
  · exact next_quoted ⟨hquote, hslash⟩

theorem keepsClosed_quote (text : String) : KeepsClosed (Json.quote text).toList := by
  intro mode hmode
  rw [Json.toList_quote,
    after_quotes (after_quoted_flatMap after_quoted_escapeChar text.toList) hmode]
  rfl

mutual

theorem keepsClosed_render : (v : Json) → KeepsClosed v.render.toList
  | .null => .of_isWord (by simp [Json.render, Json.IsWord, Json.isWordChar])
  | .bool true => .of_isWord (by simp [Json.render, Json.IsWord, Json.isWordChar])
  | .bool false => .of_isWord (by simp [Json.render, Json.IsWord, Json.isWordChar])
  | .int i => .of_isWord (Json.isWord_int i)
  | .float x => .of_isWord (Json.isWord_float x)
  | .str text => keepsClosed_quote text
  | .arr items => by
    rw [Json.render, String.toList_append, String.toList_append]
    exact ((KeepsClosed.singleton (by decide)).append (keepsClosed_renderItems items)).append
      (.singleton (by decide))
  | .obj members => by
    rw [Json.render, String.toList_append, String.toList_append]
    exact ((KeepsClosed.singleton (by decide)).append (keepsClosed_renderMembers members)).append
      (.singleton (by decide))

theorem keepsClosed_renderItems : (items : List Json) → KeepsClosed (Json.renderItems items).toList
  | [] => .nil
  | [v] => keepsClosed_render v
  | v :: w :: items => by
    rw [Json.renderItems, String.toList_append, String.toList_append]
    · exact ((keepsClosed_render v).append (.singleton (by decide))).append
        (keepsClosed_renderItems (w :: items))
    · simp

theorem keepsClosed_renderMembers :
    (members : List (String × Json)) → KeepsClosed (Json.renderMembers members).toList
  | [] => .nil
  | [(k, v)] => by
    rw [Json.renderMembers, String.toList_append, String.toList_append]
    exact ((keepsClosed_quote k).append (.singleton (by decide))).append (keepsClosed_render v)
  | (k, v) :: member :: members => by
    rw [Json.renderMembers, String.toList_append, String.toList_append, String.toList_append,
      String.toList_append]
    · exact ((((keepsClosed_quote k).append (.singleton (by decide))).append
        (keepsClosed_render v)).append (.singleton (by decide))).append
          (keepsClosed_renderMembers (member :: members))
    · simp

end

/-! ### Escaped texts -/

theorem isWhiteSpace_of_special {c : Char} (h : c ∈ special) : Text.isWhiteSpace c = false := by
  have hall : (special.all fun c => !Text.isWhiteSpace c) = true := by decide
  simpa using List.all_eq_true.1 hall c h

theorem notMem_special_of_keyword {word : String} (h : word ∈ keywords) :
    ∀ c ∈ word.toList, c ∉ special := by
  have hall : (keywords.all fun word => word.toList.all fun c => c ∉ special) = true := by decide
  simpa using List.all_eq_true.1 hall word h

theorem keepsClosed_escapeChars (text : List Char) : KeepsClosed (escapeChars text) := by
  refine KeepsClosed.flatMap (fun c => ?_) text
  split
  · intro mode hmode
    cases mode with
    | between => rfl
    | word read live => rfl
    | _ => cases hmode
  · rename_i hc
    refine .singleton fun hmem => hc ?_
    have hall : ∀ d ∈ ['"', '/', '\\'], d ∈ special := by simp [special]
    exact hall c hmem

theorem isDelimiter_of_notMem_special {c : Char} (h : c ∉ special) :
    isDelimiter c = Text.isWhiteSpace c := by
  have hall : ∀ d ∈ '"' :: '/' :: marks, d ∈ special := by simp [marks, special]
  have hmark : c ∉ '"' :: '/' :: marks := fun hc => h (hall c hc)
  simp only [List.mem_cons, not_or] at hmark
  simp [isDelimiter, hmark]

/-- An escaped text without white space goes on with the word before it. -/
theorem read_escapeChars (stars : Bool) (read : List Char) (live : Bool)
    (h : ∀ c ∈ text, Text.isWhiteSpace c = false) :
    (Mode.word read live).after (escapeChars text) = .word (read ++ escapeChars text) live ∧
      (Mode.word read live).told stars (escapeChars text) = [] := by
  induction text generalizing read with
  | nil => exact ⟨by rw [escapeChars, List.flatMap_nil, List.append_nil]; rfl, rfl⟩
  | cons c text ih =>
    rw [List.forall_mem_cons] at h
    have hcons : escapeChars (c :: text) =
        (if c ∈ special then ['\\', c] else [c]) ++ escapeChars text := by
      rw [escapeChars, List.flatMap_cons, ← escapeChars]
    have hfirst : (Mode.word read live).after (if c ∈ special then ['\\', c] else [c]) =
          .word (read ++ if c ∈ special then ['\\', c] else [c]) live ∧
        (Mode.word read live).told stars (if c ∈ special then ['\\', c] else [c]) = [] := by
      by_cases hc : c ∈ special
      · rw [if_pos hc, show read ++ ['\\', c] = read ++ ['\\'] ++ [c] by simp]
        exact ⟨rfl, rfl⟩
      · have hdelimiter : isDelimiter c = false := by
          rw [isDelimiter_of_notMem_special hc, h.1]
        have hslash : c ≠ '\\' := by
          rintro rfl
          exact hc (by decide)
        have hwildcard : c ∉ wildcards := by
          have hall : ∀ d ∈ wildcards, d ∈ special := by simp [wildcards, special]
          exact fun hmem => hc (hall c hmem)
        simp [hc, Mode.after, Mode.told, Mode.next, Mode.shown, hdelimiter, hslash, hwildcard]
    rw [hcons, Mode.after_append, Mode.told_append, hfirst.1, hfirst.2, List.nil_append,
      ← List.append_assoc]
    exact ih _ h.2

/-- Between tokens, the first character of a word is read as behind a word of no characters. -/
theorem read_word (stars : Bool) {c : Char} (h : isDelimiter c = false) (rest : List Char) :
    Mode.between.after (c :: rest) = (Mode.word [] false).after (c :: rest) ∧
      Mode.between.told stars (c :: rest) = (Mode.word [] false).told stars (c :: rest) := by
  have hopens : c ≠ '"' ∧ c ≠ '/' ∧ ownToken c = [] := by
    simp only [isDelimiter, Bool.or_eq_false_iff, decide_eq_false_iff_not] at h
    simp [ownToken, h]
  have hnext : Mode.between.next c = (Mode.word [] false).next c := by
    simp [Mode.next, Mode.start, hopens, h]
  have hshown : Mode.between.shown stars c = (Mode.word [] false).shown stars c := by
    simp [Mode.shown, hopens, h]
  rw [Mode.after_cons, Mode.after_cons, Mode.told, Mode.told, hnext, hshown]
  exact ⟨rfl, rfl⟩

/-- An escaped text without white space is a word. -/
theorem read_escaped (stars : Bool) (hne : text ≠ [])
    (h : ∀ c ∈ text, Text.isWhiteSpace c = false) :
    Mode.between.after (escapeChars text) = .word (escapeChars text) false ∧
      Mode.between.told stars (escapeChars text) = [] := by
  obtain ⟨c, rest, rfl⟩ := List.exists_cons_of_ne_nil hne
  have hhead : ∃ d tail, escapeChars (c :: rest) = d :: tail ∧ isDelimiter d = false := by
    by_cases hc : c ∈ special
    · refine ⟨'\\', c :: escapeChars rest, ?_, by decide⟩
      rw [escapeChars, List.flatMap_cons, if_pos hc]
      rfl
    · refine ⟨c, escapeChars rest, ?_, ?_⟩
      · rw [escapeChars, List.flatMap_cons, if_neg hc]
        rfl
      · rw [isDelimiter_of_notMem_special hc, h c (List.mem_cons_self ..)]
  obtain ⟨d, tail, hescaped, hd⟩ := hhead
  have hread := read_escapeChars stars [] false h
  rw [hescaped] at hread ⊢
  rw [(read_word stars hd tail).1, (read_word stars hd tail).2]
  exact hread

theorem escape_of_plain {text : String} (h : ∀ c ∈ text.toList, c ∉ special) :
    escape text = text := by
  rw [escape, escapeChars, List.flatMap_congr fun c hc => if_neg (h c hc), List.flatMap_singleton',
    String.ofList_toList]

/-- Only a keyword is escaped to a keyword. -/
theorem escape_mem_keywords_iff {text : String} : escape text ∈ keywords ↔ text ∈ keywords := by
  by_cases hplain : ∀ c ∈ text.toList, c ∉ special
  · rw [escape_of_plain hplain]
  · push Not at hplain
    obtain ⟨c, hc, hspecial⟩ := hplain
    have hslash : '\\' ∈ (escape text).toList := by
      rw [escape, String.toList_ofList, escapeChars, List.mem_flatMap]
      exact ⟨c, hc, by simp [hspecial]⟩
    constructor
    · intro hmem
      exact absurd (by decide) (notMem_special_of_keyword hmem _ hslash)
    · intro hmem
      exact absurd hspecial (notMem_special_of_keyword hmem _ hc)

/-! ### Terms -/

/-- A quoted text is one atom. -/
theorem read_quoteChars (stars : Bool) (text : List Char) :
    Mode.between.after (quoteChars text) = .between ∧
      Mode.between.told stars (quoteChars text) = [.atom false] := by
  have hstep : ∀ c : Char,
      Mode.quoted.after (if c = '\\' ∨ c = '"' then ['\\', c] else [c]) = .quoted ∧
        Mode.quoted.told stars (if c = '\\' ∨ c = '"' then ['\\', c] else [c]) = [] := by
    intro c
    split
    · exact ⟨rfl, rfl⟩
    · rename_i hc
      rw [not_or] at hc
      exact ⟨next_quoted hc.symm, by simp [Mode.told, Mode.shown, hc.2]⟩
  have hbody : Mode.quoted.told stars (text.flatMap fun c =>
      if c = '\\' ∨ c = '"' then ['\\', c] else [c]) = [] := by
    induction text with
    | nil => rfl
    | cons c text ih =>
      rw [List.flatMap_cons, Mode.told_append, (hstep c).1, (hstep c).2, ih]
      rfl
  have hafter := after_quoted_flatMap (fun c => (hstep c).1) text
  rw [quoteChars_eq_flatMap]
  refine ⟨after_quotes hafter rfl, ?_⟩
  have hopen : ∀ rest, Mode.between.told stars ('"' :: rest) = Mode.quoted.told stars rest := by
    intro rest
    rw [Mode.told]
    rfl
  show Mode.between.told stars ('"' :: (_ ++ ['"'])) = _
  rw [hopen, Mode.told_append, hbody, hafter]
  rfl

/-- **Terms.** A term is one atom without live wildcards, unless it is empty or a keyword. -/
theorem tokens_termText (text : String) :
    tokens stars (termText text) =
      if text = "" then [] else if text ∈ keywords then [.keyword text] else [.atom false] := by
  unfold termText
  split
  · rename_i hwhite
    have hplain : ∀ word ∈ "" :: keywords, word.toList.any Text.isWhiteSpace = false := by decide
    have hword : text ∉ "" :: keywords := by
      intro hmem
      rw [hplain text hmem] at hwhite
      cases hwhite
    rw [List.mem_cons, not_or] at hword
    rw [if_neg hword.1, if_neg hword.2, tokens, Mode.read, String.toList_ofList,
      (read_quoteChars stars _).1, (read_quoteChars stars _).2]
    rfl
  · rename_i hwhite
    by_cases hempty : text = ""
    · rw [if_pos hempty, hempty]
      rfl
    · have hne : text.toList ≠ [] := fun hnil => hempty (String.toList_inj.1 hnil)
      have hspace : ∀ c ∈ text.toList, Text.isWhiteSpace c = false := by
        simpa using hwhite
      obtain ⟨hafter, htold⟩ := read_escaped stars hne hspace
      rw [if_neg hempty, tokens, Mode.read, escape, String.toList_ofList, hafter, htold,
        List.nil_append, Mode.finish, wordToken, ← escape]
      by_cases hword : text ∈ keywords
      · rw [if_pos (escape_mem_keywords_iff.2 hword), if_pos hword,
          escape_of_plain (notMem_special_of_keyword hword)]
      · rw [if_neg (mt escape_mem_keywords_iff.1 hword), if_neg hword, Bool.and_false]

theorem tokens_termText_iff {text : String} {live : Bool} :
    tokens stars (termText text) = [.atom live] ↔
      live = false ∧ text ≠ "" ∧ text ∉ keywords := by
  rw [tokens_termText]
  split_ifs with hempty hword
  · simp [hempty]
  · simp [hword]
  · simp [hempty, hword, eq_comm]

theorem closed_termText (text : String) : Closed (termText text) := by
  unfold termText
  split
  · rw [Closed, String.toList_ofList, (read_quoteChars false text.toList).1]
    rfl
  · exact (keepsClosed_escapeChars text.toList).closed

/-- The text of a value leaves nothing open. -/
theorem closed_value (v : Json) : Closed (value v) := by
  cases v with
  | str text => exact closed_termText text
  | _ => exact keepsClosed_render _ .between rfl

/-! ### Prefixes -/

theorem closed_startsWith (text : String) : Closed (escape text ++ "*") := by
  rw [Closed, String.toList_append, escape, String.toList_ofList]
  exact ((keepsClosed_escapeChars text.toList).append (.singleton (by decide))) .between rfl

/-- **Prefixes.** A prefix is one atom exactly if it holds no white space. -/
theorem tokens_startsWith_iff {text : String} {live : Bool} :
    tokens stars (escape text ++ "*") = [.atom live] ↔
      live = stars ∧ text.toList.any Text.isWhiteSpace = false := by
  have hchars : (escape text ++ "*").toList = escapeChars text.toList ++ ['*'] := by
    rw [String.toList_append, escape, String.toList_ofList]
    rfl
  by_cases hwhite : text.toList.any Text.isWhiteSpace = true
  · obtain ⟨c, hc, hspace⟩ := List.any_eq_true.1 hwhite
    obtain ⟨before, behind, hsplit⟩ := List.append_of_mem hc
    have hplain : c ∉ special := by
      intro hmem
      rw [isWhiteSpace_of_special hmem] at hspace
      cases hspace
    have hescaped : escapeChars text.toList ++ ['*'] =
        escapeChars before ++ c :: (escapeChars behind ++ ['*']) := by
      simp [hsplit, escapeChars, hplain]
    have hdelimiter : isDelimiter c = true := by
      rw [isDelimiter_of_notMem_special hplain, hspace]
    have hblank : Token.blank c ∈ tokens stars (escape text ++ "*") := by
      have hhead : (c :: (escapeChars behind ++ ['*'])).head?.any isDelimiter = true := hdelimiter
      have hclosed := keepsClosed_escapeChars before .between rfl
      rw [tokens, Mode.read, hchars, hescaped, Mode.told_append,
        (Mode.split_of_isDelimiter stars hclosed hhead).2, Mode.told, Mode.shown, ownToken,
        if_pos hspace]
      simp
    -- White space is a token, so that the text is no single atom.
    refine iff_of_false (fun hatom => ?_) (by simp [hwhite])
    rw [hatom] at hblank
    simp at hblank
  · rw [Bool.not_eq_true] at hwhite
    suffices hatom : tokens stars (escape text ++ "*") = [.atom stars] by
      simp [hatom, hwhite, eq_comm]
    by_cases hempty : text.toList = []
    · rw [tokens, hchars, hempty]
      cases stars <;> decide
    · obtain ⟨hafter, htold⟩ := read_escaped stars hempty (by simpa using hwhite)
      have hstar : ∀ read, (Mode.word read false).after ['*'] = .word (read ++ ['*']) true ∧
          (Mode.word read false).told stars ['*'] = [] := by
        intro read
        have hplain : isDelimiter '*' = false := by decide
        simp [Mode.after, Mode.told, Mode.next, Mode.shown, hplain, wildcards]
      have hword : String.ofList (escapeChars text.toList ++ ['*']) ∉ keywords := by
        intro hmem
        exact notMem_special_of_keyword hmem '*' (by simp) (by decide)
      rw [tokens, Mode.read, hchars, Mode.after_append, Mode.told_append, hafter, htold,
        (hstar _).1, (hstar _).2, Mode.finish, wordToken, if_neg hword, Bool.and_true]
      rfl

/-! ### Patterns between slashes -/

/-- Whether each backslash has a character behind it that is not a slash, which would be written with
a backslash of its own. -/
def keepsSlashes : List Char → Bool
  | [] => true
  | ['\\'] => false
  | '\\' :: c :: rest => c ≠ '/' && keepsSlashes rest
  | _ :: rest => keepsSlashes rest

def slashChars (cs : List Char) : List Char :=
  cs.flatMap fun c => if c = '/' then ['\\', '/'] else [c]

theorem read_slashed_iff (cs : List Char) (live : Bool) :
    Mode.slashed.read stars (slashChars cs ++ ['/']) = [.atom live] ↔
      live = false ∧ keepsSlashes cs = true := by
  have hcons : ∀ c rest, slashChars (c :: rest) =
      (if c = '/' then ['\\', '/'] else [c]) ++ slashChars rest := by
    intro c rest
    rw [slashChars, List.flatMap_cons, ← slashChars]
  have hpair : ∀ c rest, Mode.slashed.read stars ('\\' :: c :: rest) =
      Mode.slashed.read stars rest := by
    intro c rest
    rw [Mode.read_cons, Mode.read_cons]
    rfl
  fun_induction keepsSlashes cs with
  | case1 =>
    show [Token.atom false] = _ ↔ _
    simp [eq_comm]
  | case2 =>
    show [Token.unclosed] = _ ↔ _
    simp
  | case3 c rest ih =>
    rw [hcons, if_neg (by decide), List.singleton_append, hcons]
    by_cases hc : c = '/'
    · rw [if_pos hc]
      -- The backslash is escaped by the one that is to escape the slash, which ends the atom.
      refine iff_of_false (fun hatom => ?_) (by simp [hc])
      have hclosed : Mode.slashed.read stars ('/' :: (slashChars rest ++ ['/'])) =
          .atom false :: Mode.between.read stars (slashChars rest ++ ['/']) := by
        rw [Mode.read_cons]
        rfl
      rw [List.cons_append, List.append_assoc, List.cons_append, List.cons_append, hpair,
        List.nil_append, hclosed, List.cons.injEq] at hatom
      have hnothing := (Mode.read_eq_nil hatom.2).2
      simp at hnothing
    · rw [if_neg hc, List.singleton_append, List.cons_append, List.cons_append, hpair]
      simpa [hc] using ih
  | case4 c rest hlast hpairs ih =>
    have hslash : c ≠ '\\' := by
      rintro rfl
      cases rest with
      | nil => exact hlast rfl rfl
      | cons d rest => exact hpairs d rest rfl rfl
    rw [hcons]
    by_cases hc : c = '/'
    · rw [if_pos hc, List.append_assoc, List.cons_append, List.cons_append, hpair]
      exact ih
    · rw [if_neg hc, List.singleton_append, List.cons_append, Mode.read_cons, Mode.shown, Mode.next,
        if_neg hc, if_neg hc, if_neg hslash]
      exact ih

/-- **Regular expressions.** A pattern between slashes is one atom exactly if none of its backslashes
undoes the escape of a slash. -/
theorem tokens_slashed_iff {pattern : String} {live : Bool} :
    tokens stars (slashed pattern) = [.atom live] ↔
      live = false ∧ keepsSlashes pattern.toList = true := by
  have hchars : (slashed pattern).toList = '/' :: (slashChars pattern.toList ++ ['/']) := by
    simp [slashed, slashChars]
  have hopen : Mode.between.read stars ('/' :: (slashChars pattern.toList ++ ['/'])) =
      Mode.slashed.read stars (slashChars pattern.toList ++ ['/']) := by
    rw [Mode.read_cons]
    rfl
  rw [tokens, hchars, hopen, read_slashed_iff]

end Lucene

end SearchQuery
