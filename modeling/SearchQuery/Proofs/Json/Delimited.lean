import SearchQuery.Json.Printer
import SearchQuery.Proofs.Text.Separated

/-!
# Where the text of a value ends

The text of a value can be passed over without reading it: a string up to its closing quote, an
array or an object until its brackets are closed, and any other value as one word.

* `scan_render`: between brackets the text of a value is passed over, brackets and quotes included.
* `render_append_inj`: two texts of values with separators after them are equal only where both the
  values have one text and what follows is the same.
-/

namespace SearchQuery

namespace Json

/-! ### Words -/

/-- The characters of numbers and literals. -/
def isWordChar (c : Char) : Bool := c.isAlphanum || c == '-' || c == '+' || c == '.'

def IsWord (text : List Char) : Prop := ∀ c ∈ text, isWordChar c = true

variable {text text' : List Char}

theorem IsWord.append (h : IsWord text) (h' : IsWord text') : IsWord (text ++ text') := by
  intro c hc
  rcases List.mem_append.1 hc with hc | hc
  · exact h c hc
  · exact h' c hc

theorem IsWord.of_subset (h : IsWord text) (hsub : ∀ c ∈ text', c ∈ text) : IsWord text' :=
  fun c hc => h c (hsub c hc)

theorem isWord_replicate (n : Nat) : IsWord (List.replicate n '0') := by
  intro c hc
  rw [List.eq_of_mem_replicate hc]
  decide

theorem isWord_toDigits (n : Nat) : IsWord (Nat.toDigits 10 n) := by
  intro c hc
  have hdigit : c.isDigit = true := Nat.isDigit_of_mem_toDigits (by decide) (by decide) hc
  simp [isWordChar, Char.isAlphanum, hdigit]

theorem isWord_nat (n : Nat) : IsWord (toString n).toList := by
  rw [show (toString n).toList = Nat.toDigits 10 n by simp]
  exact isWord_toDigits n

theorem isWord_int (i : Int) : IsWord (toString i).toList := by
  cases i with
  | ofNat n => exact isWord_nat n
  | negSucc n =>
    have htext : (toString (Int.negSucc n)).toList = '-' :: (toString (n + 1)).toList := by
      rw [show toString (Int.negSucc n) = "-" ++ toString (n + 1) from rfl, String.toList_append]
      rfl
    have hsign : IsWord ['-'] := by simp [IsWord, isWordChar]
    rw [htext]
    exact hsign.append (isWord_nat (n + 1))

/-- A decimal is written with digits, a point and an exponent. -/
theorem isWord_decimal (d : Decimal) : IsWord d.text.toList := by
  have hliteral : ∀ t ∈ ["", "0", ".", "0.", "e-", "e+"], IsWord t.toList := by
    simp [IsWord, isWordChar]
  have hdigits : ∀ n, IsWord (Nat.toDigits 10 d.digits ++ List.replicate n '0') :=
    fun n => (isWord_toDigits d.digits).append (isWord_replicate n)
  have htake : ∀ {text : List Char} n, IsWord text → IsWord (text.take n) :=
    fun n h => h.of_subset fun c hc => List.mem_of_mem_take hc
  have hdrop : ∀ {text : List Char} n, IsWord text → IsWord (text.drop n) :=
    fun n h => h.of_subset fun c hc => List.mem_of_mem_drop hc
  unfold Decimal.text
  simp only
  split
  · split
    · rw [String.toList_append]
      apply IsWord.append (hliteral "0." (by decide))
      rw [String.toList_ofList]
      exact (isWord_replicate _).append (isWord_toDigits _)
    · rw [String.toList_append, String.toList_append, String.toList_ofList]
      apply IsWord.append
      · apply IsWord.append
        · apply htake
          exact hdigits _
        · exact hliteral "." (by decide)
      · split
        · exact hliteral "0" (by decide)
        · rw [String.toList_ofList]
          apply hdrop
          exact hdigits _
  · rw [String.toList_append, String.toList_append, String.toList_append, String.toList_ofList]
    apply IsWord.append
    · apply IsWord.append
      · apply IsWord.append
        · apply htake
          exact isWord_toDigits _
        · split
          · exact hliteral "" (by decide)
          · rw [String.toList_append]
            apply IsWord.append (hliteral "." (by decide))
            rw [String.toList_ofList]
            apply hdrop
            exact isWord_toDigits _
      · split
        · exact hliteral "e-" (by decide)
        · exact hliteral "e+" (by decide)
    · exact isWord_nat _

theorem isWord_float (x : Binary64) : IsWord x.text.toList := by
  rw [Binary64.text, String.toList_append]
  refine IsWord.append ?_ (isWord_decimal _)
  cases x.negative <;> simp [IsWord, isWordChar]

/-! ### Passing over values -/

/-- Where a scan stands: between values, or within a string, perhaps behind a backslash. -/
inductive ScanMode where
  | between
  | inString
  | escaped

/-- What follows after so many brackets are closed. -/
def scan : Nat → ScanMode → List Char → List Char
  | 0, .between, text => text
  | _, _, [] => []
  | depth + 1, .between, c :: rest =>
    if c = '"' then scan (depth + 1) .inString rest
    else if c = '[' ∨ c = '\x7b' then scan (depth + 2) .between rest
    else if c = ']' ∨ c = '\x7d' then scan depth .between rest
    else scan (depth + 1) .between rest
  | depth, .inString, c :: rest =>
    if c = '"' then scan depth .between rest
    else if c = '\\' then scan depth .escaped rest
    else scan depth .inString rest
  | depth, .escaped, _ :: rest => scan depth .inString rest

/-- What follows a value. -/
def afterValue : List Char → List Char
  | '"' :: rest => scan 0 .inString rest
  | '[' :: rest => scan 1 .between rest
  | '\x7b' :: rest => scan 1 .between rest
  | text => text.dropWhile isWordChar

section Scan

variable (depth : Nat) (rest : List Char)

theorem scan_inString (c : Char) :
    scan depth .inString (c :: rest) =
      if c = '"' then scan depth .between rest
      else if c = '\\' then scan depth .escaped rest
      else scan depth .inString rest := by
  cases depth <;> rfl

theorem scan_escaped (c : Char) :
    scan depth .escaped (c :: rest) = scan depth .inString rest := by
  cases depth <;> rfl

theorem digitChar_ne {n : Nat} (h : n < 16) : n.digitChar ≠ '"' ∧ n.digitChar ≠ '\\' := by
  have hall : ∀ n < 16, n.digitChar ≠ '"' ∧ n.digitChar ≠ '\\' := by decide
  exact hall n h

/-- An escaped character does not close a string. -/
theorem scan_escapeChar (c : Char) :
    scan depth .inString (escapeChar c ++ rest) = scan depth .inString rest := by
  have hpair : ∀ e rest, scan depth .inString ('\\' :: e :: rest) = scan depth .inString rest := by
    intro e rest
    rw [scan_inString, if_neg (by decide), if_pos rfl, scan_escaped]
  have hplain : ∀ d : Char, d ≠ '"' ∧ d ≠ '\\' → ∀ rest,
      scan depth .inString (d :: rest) = scan depth .inString rest := by
    intro d hd rest
    rw [scan_inString, if_neg hd.1, if_neg hd.2]
  unfold escapeChar
  split_ifs with hquote hslash _ _ _ _ _ hcontrol
  any_goals exact hpair _ rest
  · have hhigh : c.toNat / 16 < 16 := by omega
    have hlow : c.toNat % 16 < 16 := by omega
    simp only [List.cons_append, List.nil_append]
    rw [hpair, hplain _ (by decide), hplain _ (by decide), hplain _ (digitChar_ne hhigh),
      hplain _ (digitChar_ne hlow)]
  · exact hplain c ⟨hquote, hslash⟩ rest

/-- A string is passed over up to its closing quote. -/
theorem scan_escaped_text (text : List Char) :
    scan depth .inString (text.flatMap escapeChar ++ '"' :: rest) = scan depth .between rest := by
  induction text with
  | nil =>
    show scan depth .inString ('"' :: rest) = _
    rw [scan_inString, if_pos rfl]
  | cons c text ih => rw [List.flatMap_cons, List.append_assoc, scan_escapeChar, ih]

theorem toList_quote (text : String) :
    (quote text).toList = '"' :: (text.toList.flatMap escapeChar ++ ['"']) := by
  simp [quote]

theorem scan_quote (text : String) :
    scan (depth + 1) .between ((quote text).toList ++ rest) = scan (depth + 1) .between rest := by
  rw [toList_quote, List.cons_append, List.append_assoc, scan, if_pos rfl]
  exact scan_escaped_text (depth + 1) rest text.toList

/-- Characters that are neither quotes nor brackets are passed over. -/
theorem scan_plain {c : Char} (h : c ∉ ['"', '[', '\x7b', ']', '\x7d']) :
    scan (depth + 1) .between (c :: rest) = scan (depth + 1) .between rest := by
  simp only [List.mem_cons, List.not_mem_nil, or_false, not_or] at h
  rw [scan, if_neg h.1, if_neg (by simp [h]), if_neg (by simp [h])]

theorem scan_word {text : List Char} (h : IsWord text) :
    scan (depth + 1) .between (text ++ rest) = scan (depth + 1) .between rest := by
  induction text with
  | nil => rfl
  | cons c text ih =>
    have hspecial : ∀ d ∈ ['"', '[', '\x7b', ']', '\x7d'], isWordChar d = false := by
      simp [isWordChar]
    have hc : c ∉ ['"', '[', '\x7b', ']', '\x7d'] := by
      intro hmem
      have hword := h c (List.mem_cons_self ..)
      rw [hspecial c hmem] at hword
      cases hword
    rw [List.cons_append, scan_plain depth _ hc, ih fun d hd => h d (List.mem_cons_of_mem _ hd)]

end Scan

mutual

/-- Between brackets the text of a value is passed over. -/
theorem scan_render (depth : Nat) (rest : List Char) :
    (v : Json) → scan (depth + 1) .between (v.render.toList ++ rest) =
      scan (depth + 1) .between rest
  | .null => scan_word depth rest (by simp [render, IsWord, isWordChar])
  | .bool true => scan_word depth rest (by simp [render, IsWord, isWordChar])
  | .bool false => scan_word depth rest (by simp [render, IsWord, isWordChar])
  | .int i => scan_word depth rest (isWord_int i)
  | .float x => scan_word depth rest (isWord_float x)
  | .str text => scan_quote depth rest text
  | .arr items => by
    rw [render, String.toList_append, String.toList_append, List.append_assoc, List.append_assoc]
    show scan (depth + 1) .between ('[' :: ((renderItems items).toList ++ ']' :: rest)) = _
    rw [scan, if_neg (by decide), if_pos (by decide), scan_renderItems (depth + 1) _ items, scan,
      if_neg (by decide), if_neg (by decide), if_pos (by decide)]
  | .obj members => by
    rw [render, String.toList_append, String.toList_append, List.append_assoc, List.append_assoc]
    show scan (depth + 1) .between ('\x7b' :: ((renderMembers members).toList ++ '\x7d' :: rest)) = _
    rw [scan, if_neg (by decide), if_pos (by decide), scan_renderMembers (depth + 1) _ members,
      scan, if_neg (by decide), if_neg (by decide), if_pos (by decide)]

theorem scan_renderItems (depth : Nat) (rest : List Char) :
    (items : List Json) → scan (depth + 1) .between ((renderItems items).toList ++ rest) =
      scan (depth + 1) .between rest
  | [] => rfl
  | [v] => scan_render depth rest v
  | v :: w :: items => by
    show scan (depth + 1) .between ((v.render ++ "," ++ renderItems (w :: items)).toList ++ rest) = _
    rw [String.toList_append, String.toList_append, List.append_assoc, List.append_assoc,
      scan_render depth _ v]
    show scan (depth + 1) .between (',' :: ((renderItems (w :: items)).toList ++ rest)) = _
    rw [scan_plain depth _ (by decide), scan_renderItems depth rest (w :: items)]

theorem scan_renderMembers (depth : Nat) (rest : List Char) :
    (members : List (String × Json)) →
      scan (depth + 1) .between ((renderMembers members).toList ++ rest) =
        scan (depth + 1) .between rest
  | [] => rfl
  | [(k, v)] => by
    rw [renderMembers, String.toList_append, String.toList_append, List.append_assoc,
      List.append_assoc, scan_quote]
    show scan (depth + 1) .between (':' :: (v.render.toList ++ rest)) = _
    rw [scan_plain depth _ (by decide), scan_render depth rest v]
  | (k, v) :: member :: members => by
    show scan (depth + 1) .between
      ((quote k ++ ":" ++ v.render ++ "," ++ renderMembers (member :: members)).toList ++ rest) = _
    simp only [String.toList_append, List.append_assoc]
    rw [scan_quote]
    show scan (depth + 1) .between (':' :: (v.render.toList ++
      ',' :: ((renderMembers (member :: members)).toList ++ rest))) = _
    rw [scan_plain depth _ (by decide), scan_render depth _ v, scan_plain depth _ (by decide),
      scan_renderMembers depth rest (member :: members)]

end

/-! ### Separated values -/

/-- The characters that may stand behind a value. -/
def separators : List Char := [' ', ',', ']', ')']

theorem isWordChar_of_separator : ∀ c ∈ separators, isWordChar c = false := by
  simp [separators, isWordChar]

variable {rest rest' : List Char}

/-- A word is passed over as far as it goes. -/
theorem afterValue_word (h : IsWord text) (hrest : Text.Follows separators rest) :
    afterValue (text ++ rest) = rest := by
  have hopens : ∀ c ∈ (text ++ rest).head?, c ∉ ['"', '[', '\x7b'] := by
    intro c hc hopen
    cases text with
    | nil =>
      have hboth : ∀ c ∈ ['"', '[', '\x7b'], c ∉ separators := by simp [separators]
      exact hboth c hopen (hrest c hc)
    | cons d text =>
      have hboth : ∀ c ∈ ['"', '[', '\x7b'], isWordChar c = false := by simp [isWordChar]
      obtain rfl : d = c := Option.some.inj hc
      have hword := h d (List.mem_cons_self ..)
      rw [hboth d hopen] at hword
      cases hword
  have hdrop : afterValue (text ++ rest) = (text ++ rest).dropWhile isWordChar := by
    unfold afterValue
    split
    · rename_i heq
      exact absurd (by decide) (hopens '"' (by rw [heq]; rfl))
    · rename_i heq
      exact absurd (by decide) (hopens '[' (by rw [heq]; rfl))
    · rename_i heq
      exact absurd (by decide) (hopens '\x7b' (by rw [heq]; rfl))
    · rfl
  rw [hdrop, List.dropWhile_append_of_pos h]
  cases rest with
  | nil => rfl
  | cons c rest =>
    rw [List.dropWhile_cons, isWordChar_of_separator c (hrest c rfl)]
    rfl

/-- A value ends where a separator follows. -/
theorem afterValue_render (v : Json) (hrest : Text.Follows separators rest) :
    afterValue (v.render.toList ++ rest) = rest := by
  cases v with
  | null => exact afterValue_word (by simp [render, IsWord, isWordChar]) hrest
  | bool b =>
    cases b <;> exact afterValue_word (by simp [render, IsWord, isWordChar]) hrest
  | int i => exact afterValue_word (isWord_int i) hrest
  | float x => exact afterValue_word (isWord_float x) hrest
  | str text =>
    rw [render, toList_quote, List.cons_append, List.append_assoc]
    show scan 0 .inString (text.toList.flatMap escapeChar ++ '"' :: rest) = rest
    rw [scan_escaped_text, scan]
  | arr items =>
    rw [render, String.toList_append, String.toList_append, List.append_assoc, List.append_assoc]
    show scan 1 .between ((renderItems items).toList ++ ']' :: rest) = rest
    rw [scan_renderItems 0 _ items, scan, if_neg (by decide), if_neg (by decide),
      if_pos (by decide), scan]
  | obj members =>
    rw [render, String.toList_append, String.toList_append, List.append_assoc, List.append_assoc]
    show scan 1 .between ((renderMembers members).toList ++ '\x7d' :: rest) = rest
    rw [scan_renderMembers 0 _ members, scan, if_neg (by decide), if_neg (by decide),
      if_pos (by decide), scan]

/-- **The text of a value is delimited.** Texts of values with separators after them can only be
equal part by part. -/
theorem render_append_inj {v w : Json} (hrest : Text.Follows separators rest)
    (hrest' : Text.Follows separators rest')
    (h : v.render.toList ++ rest = w.render.toList ++ rest') :
    v.render = w.render ∧ rest = rest' := by
  have hafter : rest = rest' := by
    rw [← afterValue_render v hrest, h, afterValue_render w hrest']
  subst hafter
  exact ⟨String.toList_inj.1 (List.append_cancel_right h), rfl⟩

/-! ### First characters -/

theorem int_ne_nil (i : Int) : (toString i).toList ≠ [] := by
  cases i with
  | ofNat n =>
    rw [show toString (Int.ofNat n) = toString n from rfl, show (toString n).toList =
      Nat.toDigits 10 n by simp]
    exact Nat.toDigits_ne_nil
  | negSucc n =>
    rw [show toString (Int.negSucc n) = "-" ++ toString (n + 1) from rfl, String.toList_append]
    simp

theorem decimal_ne_nil (d : Decimal) : d.text.toList ≠ [] := by
  unfold Decimal.text
  simp only
  split
  · split <;> simp
  · split <;> split <;> simp

/-- A value does not start with a separator. -/
theorem render_start (v : Json) : ∃ c tail, v.render.toList = c :: tail ∧ c ∉ separators := by
  have hword : ∀ {text}, IsWord text → text ≠ [] → ∃ c tail, text = c :: tail ∧ c ∉ separators := by
    intro text h hne
    obtain ⟨c, tail, rfl⟩ := List.exists_cons_of_ne_nil hne
    refine ⟨c, tail, rfl, fun hmem => ?_⟩
    have hc := h c (List.mem_cons_self ..)
    rw [isWordChar_of_separator c hmem] at hc
    cases hc
  cases v with
  | null => exact ⟨'n', _, rfl, by decide⟩
  | bool b =>
    cases b with
    | true => exact ⟨'t', _, rfl, by decide⟩
    | false => exact ⟨'f', _, rfl, by decide⟩
  | int i => exact hword (isWord_int i) (int_ne_nil i)
  | float x =>
    have hne : x.text.toList ≠ [] := by
      rw [Binary64.text, String.toList_append]
      exact List.append_ne_nil_of_right_ne_nil _ (decimal_ne_nil _)
    exact hword (isWord_float x) hne
  | str text => exact ⟨'"', _, toList_quote text, by decide⟩
  | arr items =>
    refine ⟨'[', (renderItems items ++ "]").toList, ?_, by decide⟩
    rw [render, String.append_assoc, String.toList_append]
    rfl
  | obj members =>
    refine ⟨'\x7b', (renderMembers members ++ "\x7d").toList, ?_, by decide⟩
    rw [render, String.append_assoc, String.toList_append]
    rfl

end Json

end SearchQuery
