import Keypad.Proofs.Literals
/-!
Reading structured data back. A written form is cut into tokens, whatever blanks stand between them,
and the tokens are put together again with a stack of what is open. Both written forms of a value
have the same tokens, so both are read as that value, and they differ in blanks only.
-/
namespace Keypad.Text.Json

@[elab_as_elim]
theorem induction {motive : Json → Prop} (string : ∀ text, motive (.string text))
    (number : ∀ n, motive (.number n))
    (array : ∀ items, (∀ j ∈ items, motive j) → motive (.array items))
    (object : ∀ fields, (∀ f ∈ fields, motive f.2) → motive (.object fields)) : ∀ j, motive j
  | .string text => string text
  | .number n => number n
  | .array items => array items fun j _ => induction string number array object j
  | .object fields => object fields fun f _ => induction string number array object f.2
  termination_by j => j
  decreasing_by
    · next hmem =>
      have := List.sizeOf_lt_of_mem hmem
      simp only [Json.array.sizeOf_spec]
      omega
    · next hmem =>
      have := List.sizeOf_lt_of_mem hmem
      have hsnd : sizeOf f.2 < sizeOf f := by
        cases f
        simp only [Prod.mk.sizeOf_spec]
        omega
      simp only [Json.object.sizeOf_spec]
      omega

inductive Token
  | openArray
  | closeArray
  | openObject
  | closeObject
  | comma
  | colon
  | string (text : String)
  | number (n : Nat)
  deriving DecidableEq, Repr

namespace Token

def chars : Token → List Char
  | .openArray => ['[']
  | .closeArray => [']']
  | .openObject => ['\x7b']
  | .closeObject => ['\x7d']
  | .comma => [',']
  | .colon => [':']
  | .string text => quote text
  | .number n => digits n

def sign? : Char → Option Token
  | '[' => some .openArray
  | ']' => some .closeArray
  | '\x7b' => some .openObject
  | '\x7d' => some .closeObject
  | ',' => some .comma
  | ':' => some .colon
  | _ => none

end Token

mutual

def tokens : Json → List Token
  | .string text => [.string text]
  | .number n => [.number n]
  | .array items => .openArray :: List.intercalate [.comma] (itemTokens items) ++ [.closeArray]
  | .object fields =>
    .openObject :: List.intercalate [.comma] (fieldTokens fields) ++ [.closeObject]

def itemTokens : List Json → List (List Token)
  | [] => []
  | j :: rest => tokens j :: itemTokens rest

def fieldTokens : List (String × Json) → List (List Token)
  | [] => []
  | (key, j) :: rest => (.string key :: .colon :: tokens j) :: fieldTokens rest

end

theorem itemTokens_eq (items : List Json) : itemTokens items = items.map tokens := by
  induction items with
  | nil => rfl
  | cons j items ih => rw [itemTokens, ih, List.map_cons]

theorem fieldTokens_eq (fields : List (String × Json)) :
    fieldTokens fields = fields.map fun f => .string f.1 :: .colon :: tokens f.2 := by
  induction fields with
  | nil => rfl
  | cons f fields ih => rw [fieldTokens, ih, List.map_cons]

theorem length_lt_of_readText {cs text rest : List Char} (h : readText cs = some (text, rest)) :
    rest.length < cs.length := by
  fun_induction readText cs generalizing text with
  | case1 => cases h
  | case2 =>
    obtain ⟨-, rfl⟩ := Prod.mk.inj (Option.some.inj h)
    exact Nat.lt_succ_self _
  | case3 a b c d tail ih =>
    obtain ⟨x, -, h⟩ := Option.bind_eq_some_iff.mp h
    obtain ⟨text', h⟩ := Unquoted.rest_of_ahead h
    exact Nat.lt_trans (ih h) (by simp only [List.length_cons]; omega)
  | case4 c tail _ ih =>
    obtain ⟨x, -, h⟩ := Option.bind_eq_some_iff.mp h
    obtain ⟨text', h⟩ := Unquoted.rest_of_ahead h
    exact Nat.lt_trans (ih h) (by simp only [List.length_cons]; omega)
  | case5 => cases h
  | case6 c tail _ _ _ _ ih =>
    obtain ⟨text', h⟩ := Unquoted.rest_of_ahead h
    exact Nat.lt_trans (ih h) (Nat.lt_succ_self _)

def scan : List Char → Option (List Token)
  | [] => some []
  | c :: rest =>
    if c.isWhitespace then scan rest
    else if c = '\x22' then
      match _ : readText rest with
      | some (text, behind) => (scan behind).map (.string (String.ofList text) :: ·)
      | none => none
    else if c.isDigit then
      let value := Nat.ofDigitChars 10 (c :: rest.takeWhile Char.isDigit) 0
      (scan (rest.dropWhile Char.isDigit)).map (.number value :: ·)
    else (Token.sign? c).bind fun t => (scan rest).map (t :: ·)
  termination_by cs => cs.length
  decreasing_by
    · exact Nat.lt_succ_self _
    · exact Nat.lt_trans (length_lt_of_readText ‹_›) (Nat.lt_succ_self _)
    · exact Nat.lt_succ_of_le (List.dropWhile_suffix _).length_le
    · exact Nat.lt_succ_self _

def Apart (cs : List Char) : Prop := ∀ c ∈ cs.head?, c.isDigit = false

/-- Tokens one behind the other, with blanks anywhere between them. -/
inductive Spaced : List Token → List Char → Prop
  | nil : Spaced [] []
  | blank {ts cs} (c : Char) (hc : c.isWhitespace = true) (h : Spaced ts cs) : Spaced ts (c :: cs)
  | sign {ts cs} {c : Char} {t : Token} (hc : Token.sign? c = some t) (h : Spaced ts cs) :
    Spaced (t :: ts) (c :: cs)
  | string {ts cs} (text : String) (h : Spaced ts cs) :
    Spaced (.string text :: ts) (quote text ++ cs)
  | number {ts cs} (n : Nat) (happart : Apart cs) (h : Spaced ts cs) :
    Spaced (.number n :: ts) (digits n ++ cs)

theorem scan_string (text : String) (rest : List Char) :
    scan (quote text ++ rest) = (scan rest).map (.string text :: ·) := by
  rw [quote_append, scan, if_neg (by decide), if_pos rfl]
  split
  · next text' behind h =>
    rw [readText_quote] at h
    obtain ⟨rfl, rfl⟩ := Prod.mk.inj (Option.some.inj h)
    rw [String.ofList_toList]
  · next h =>
    rw [readText_quote] at h
    cases h

theorem digits_eq (n : Nat) : ∃ d ds, digits n = d :: ds ∧ (∀ x ∈ d :: ds, x.isDigit = true) ∧
    Nat.ofDigitChars 10 (d :: ds) 0 = n := Pattern.Parser.exists_digits_toString n

theorem not_of_isDigit {c : Char} (h : c.isDigit = true) : c.isWhitespace = false ∧ c ≠ '\x22' := by
  refine ⟨Bool.eq_false_iff.mpr fun hblank => ?_, fun hquote => ?_⟩
  · simp only [Char.isWhitespace, Bool.or_eq_true, decide_eq_true_eq] at hblank
    rcases hblank with ((hc | hc) | hc) | hc <;> subst hc <;> cases h
  · subst hquote
    cases h

theorem scan_number (n : Nat) {rest : List Char} (h : Apart rest) :
    scan (digits n ++ rest) = (scan rest).map (.number n :: ·) := by
  obtain ⟨d, ds, hdigits, hall, hvalue⟩ := digits_eq n
  obtain ⟨hd, hds⟩ := List.forall_mem_cons.mp hall
  obtain ⟨htake, hdrop⟩ := takeWhile_append_stop hds rest h
  rw [hdigits, List.cons_append, scan, if_neg (by simp [not_of_isDigit hd]),
    if_neg (not_of_isDigit hd).2, if_pos hd, htake, hdrop, hvalue]

theorem not_of_sign {c : Char} {t : Token} (h : Token.sign? c = some t) :
    c.isWhitespace = false ∧ c ≠ '\x22' ∧ c.isDigit = false ∧ t.chars = [c] := by
  unfold Token.sign? at h
  split at h
  any_goals
    obtain rfl := Option.some.inj h
    decide
  cases h

theorem scan_sign {c : Char} {t : Token} (h : Token.sign? c = some t) (rest : List Char) :
    scan (c :: rest) = (scan rest).map (t :: ·) := by
  obtain ⟨hblank, hquote, hdigit, -⟩ := not_of_sign h
  rw [scan, if_neg (by simp [hblank]), if_neg hquote, if_neg (by simp [hdigit]), h]
  rfl

theorem scan_spaced {ts : List Token} {cs : List Char} (h : Spaced ts cs) : scan cs = some ts := by
  induction h with
  | nil => rw [scan]
  | blank c hc _ ih => rw [scan, if_pos hc, ih]
  | sign hc _ ih => rw [scan_sign hc, ih, Option.map_some]
  | string text _ ih => rw [scan_string, ih, Option.map_some]
  | number n happart _ ih => rw [scan_number n happart, ih, Option.map_some]

inductive Zone
  | outside
  | inside
  | escaped
  deriving DecidableEq, Repr

def dropBlanks : Zone → List Char → List Char
  | _, [] => []
  | .outside, c :: rest =>
    if c.isWhitespace then dropBlanks .outside rest
    else c :: dropBlanks (if c = '\x22' then .inside else .outside) rest
  | .inside, c :: rest =>
    c :: dropBlanks (if c = '\x22' then .outside else if c = '\\' then .escaped else .inside) rest
  | .escaped, c :: rest => c :: dropBlanks .inside rest

theorem dropBlanks_escape (c : Char) (rest : List Char) :
    dropBlanks .inside (escape c ++ rest) = escape c ++ dropBlanks .inside rest := by
  have hhex : ∀ n < 16, hexDigit n ≠ '\x22' ∧ hexDigit n ≠ '\\' := by decide
  unfold escape
  split_ifs with hquote hbackslash hback hfeed hline hreturn htab hcontrol
  any_goals rfl
  · obtain ⟨hhi, hhi'⟩ := hhex (c.toNat / 16) (by omega)
    obtain ⟨hlo, hlo'⟩ := hhex (c.toNat % 16) (by omega)
    simp [dropBlanks, hhi, hhi', hlo, hlo']
  · simp [dropBlanks, hquote, hbackslash]

theorem dropBlanks_quote (text : String) (rest : List Char) :
    dropBlanks .outside (quote text ++ rest) = quote text ++ dropBlanks .outside rest := by
  have htext : ∀ cs : List Char, dropBlanks .inside (cs.flatMap escape ++ '\x22' :: rest) =
      cs.flatMap escape ++ '\x22' :: dropBlanks .outside rest := by
    intro cs
    induction cs with
    | nil => rfl
    | cons c cs ih =>
      rw [List.flatMap_cons, List.append_assoc, dropBlanks_escape, ih, List.append_assoc]
  rw [quote_append, quote_append, ← htext text.toList]
  rfl

theorem dropBlanks_digits {ds : List Char} (h : ∀ d ∈ ds, d.isDigit = true) (rest : List Char) :
    dropBlanks .outside (ds ++ rest) = ds ++ dropBlanks .outside rest := by
  induction ds with
  | nil => rfl
  | cons d ds ih =>
    obtain ⟨hd, hds⟩ := List.forall_mem_cons.mp h
    obtain ⟨hblank, hquote⟩ := not_of_isDigit hd
    rw [List.cons_append, dropBlanks, hblank, if_neg Bool.false_ne_true, if_neg hquote, ih hds,
      List.cons_append]

theorem dropBlanks_spaced {ts : List Token} {cs : List Char} (h : Spaced ts cs) :
    dropBlanks .outside cs = ts.flatMap Token.chars := by
  induction h with
  | nil => rfl
  | blank c hc _ ih => rw [dropBlanks, if_pos hc, ih]
  | sign hc _ ih =>
    obtain ⟨hblank, hquote, -, hchars⟩ := not_of_sign hc
    rw [dropBlanks, hblank, if_neg Bool.false_ne_true, if_neg hquote, ih, List.flatMap_cons, hchars,
      List.singleton_append]
  | string text _ ih => rw [dropBlanks_quote, ih, List.flatMap_cons, Token.chars]
  | number n _ _ ih =>
    obtain ⟨d, ds, hdigits, hall, -⟩ := digits_eq n
    rw [List.flatMap_cons, Token.chars, hdigits, dropBlanks_digits hall, ih]

def Writes (ts : List Token) (cs : List Char) : Prop :=
  ∀ ⦃us ds⦄, Spaced us ds → Apart ds → Spaced (ts ++ us) (cs ++ ds)

def Gap (gap : List Char) : Prop := ∀ c ∈ gap, c.isWhitespace = true

section Layout

variable {before between after : List Char} {ts : List Token} {cs : List Char}

theorem Spaced.behind (hgap : Gap before) (h : Spaced ts cs) : Spaced ts (before ++ cs) := by
  induction before with
  | nil => exact h
  | cons c before ih =>
    obtain ⟨hc, hgap⟩ := List.forall_mem_cons.mp hgap
    exact .blank c hc (ih hgap)

theorem Apart.behind (hgap : Gap before) (h : Apart cs) : Apart (before ++ cs) := by
  cases before with
  | nil => exact h
  | cons c before =>
    intro x hx
    obtain rfl : c = x := Option.some.inj hx
    refine Bool.eq_false_iff.mpr fun hdigit => ?_
    have hblank := hgap c List.mem_cons_self
    rw [(not_of_isDigit hdigit).1] at hblank
    cases hblank

theorem apart_sign {c : Char} {t : Token} (hc : Token.sign? c = some t) (cs : List Char) :
    Apart (c :: cs) := by
  intro x hx
  obtain rfl : c = x := Option.some.inj hx
  exact (not_of_sign hc).2.2.1

theorem writes_row {α : Type} {ts : α → List Token} {cs : α → List Char}
    (hgap : Gap between) {xs : List α} (h : ∀ x ∈ xs, Writes (ts x) (cs x)) :
    Writes (List.intercalate [.comma] (xs.map ts))
      (List.intercalate (',' :: between) (xs.map cs)) := by
  induction xs with
  | nil => exact fun us ds hds _ => hds
  | cons x xs ih =>
    obtain ⟨hx, hxs⟩ := List.forall_mem_cons.mp h
    cases xs with
    | nil => simpa only [List.map_cons, List.map_nil, List.intercalate_singleton] using hx
    | cons y ys =>
      -- the comma keeps a number in the first part apart from what follows
      intro us ds hds happart
      simp only [List.map_cons, List.intercalate_cons_cons, List.append_assoc, List.cons_append,
        List.nil_append]
      exact hx (.sign rfl (.behind hgap (ih hxs hds happart))) (apart_sign rfl _)

theorem Writes.enclosed {c d : Char} {t u : Token} (hc : Token.sign? c = some t)
    (hd : Token.sign? d = some u) (hbefore : Gap before) (hafter : Gap after) (h : Writes ts cs) :
    Writes (t :: ts ++ [u]) (c :: before ++ cs ++ after ++ [d]) := by
  intro us ds hds _
  simp only [List.cons_append, List.append_assoc, List.nil_append]
  exact .sign hc (.behind hbefore
    (h (.behind hafter (.sign hd hds)) (.behind hafter (apart_sign hd ds))))

theorem Writes.named (key : String) (hgap : Gap between) (h : Writes ts cs) :
    Writes (.string key :: .colon :: ts) (quote key ++ ':' :: (between ++ cs)) := by
  intro us ds hds happart
  simp only [List.cons_append, List.append_assoc]
  exact .string key (.sign rfl (.behind hgap (h hds happart)))

end Layout

theorem compactItems_eq (items : List Json) : compactItems items = items.map compactChars := by
  induction items with
  | nil => rfl
  | cons j items ih => rw [compactItems, ih, List.map_cons]

theorem compactFields_eq (fields : List (String × Json)) :
    compactFields fields = fields.map fun f => quote f.1 ++ ':' :: compactChars f.2 := by
  induction fields with
  | nil => rfl
  | cons f fields ih => rw [compactFields, ih, List.map_cons]

theorem prettyItems_eq (level : Nat) (items : List Json) :
    prettyItems level items = items.map (prettyChars level) := by
  induction items with
  | nil => rfl
  | cons j items ih => rw [prettyItems, ih, List.map_cons]

theorem prettyFields_eq (level : Nat) (fields : List (String × Json)) :
    prettyFields level fields = fields.map fun f =>
      quote f.1 ++ ':' :: ' ' :: prettyChars level f.2 := by
  induction fields with
  | nil => rfl
  | cons f fields ih => rw [prettyFields, ih, List.map_cons]

theorem writes_string (text : String) : Writes [.string text] (quote text) :=
  fun _ _ h _ => .string text h

theorem writes_number (n : Nat) : Writes [.number n] (digits n) :=
  fun _ _ h happart => .number n happart h

theorem gap_nil : Gap [] := List.forall_mem_nil _

theorem gap_newLine (level : Nat) : Gap (newLine level) := by
  refine List.forall_mem_cons.mpr ⟨rfl, fun c hc => ?_⟩
  rw [List.eq_of_mem_replicate hc]
  rfl

theorem writes_compact (j : Json) : Writes j.tokens (compactChars j) := by
  induction j using Json.induction with
  | string text => exact writes_string text
  | number n => exact writes_number n
  | array items ih =>
    rw [tokens, compactChars, itemTokens_eq, compactItems_eq]
    simpa [enclose] using (writes_row gap_nil ih).enclosed (c := '[') rfl (d := ']') rfl
      gap_nil gap_nil
  | object fields ih =>
    rw [tokens, compactChars, fieldTokens_eq, compactFields_eq]
    have hfields := writes_row gap_nil fun f hf => (ih f hf).named f.1 gap_nil
    simpa [enclose] using hfields.enclosed (c := '\x7b') rfl (d := '\x7d') rfl gap_nil gap_nil

theorem writes_encloseLines {c d : Char} {t u : Token} (hc : Token.sign? c = some t)
    (hd : Token.sign? d = some u) {α : Type} {ts : α → List Token} {cs : α → List Char}
    {xs : List α} (level : Nat) (h : ∀ x ∈ xs, Writes (ts x) (cs x)) :
    Writes (t :: List.intercalate [.comma] (xs.map ts) ++ [u])
      (encloseLines level c d (xs.map cs)) := by
  cases xs with
  | nil => exact fun us ds hds _ => .sign hc (.sign hd hds)
  | cons x xs =>
    have hrow := writes_row (gap_newLine (level + 1)) h
    simpa [encloseLines] using hrow.enclosed hc hd (gap_newLine (level + 1)) (gap_newLine level)

theorem writes_pretty (j : Json) (level : Nat) : Writes j.tokens (prettyChars level j) := by
  induction j using Json.induction generalizing level with
  | string text => exact writes_string text
  | number n => exact writes_number n
  | array items ih =>
    rw [tokens, prettyChars, itemTokens_eq, prettyItems_eq]
    exact writes_encloseLines rfl rfl level fun j hj => ih j hj (level + 1)
  | object fields ih =>
    rw [tokens, prettyChars, fieldTokens_eq, prettyFields_eq]
    have hblank : Gap [' '] := by simp [Gap]
    exact writes_encloseLines rfl rfl level fun f hf => (ih f hf (level + 1)).named f.1 hblank

theorem Writes.spaced {ts : List Token} {cs : List Char} (h : Writes ts cs) : Spaced ts cs := by
  simpa using h .nil nofun

theorem flatMap_intercalate (rows : List (List Token)) :
    (List.intercalate [.comma] rows).flatMap Token.chars =
    List.intercalate [','] (rows.map (·.flatMap Token.chars)) := by
  induction rows with
  | nil => rfl
  | cons row rows ih =>
    cases rows with
    | nil => simp
    | cons next rows =>
      rw [List.intercalate_cons_cons, List.flatMap_append, List.flatMap_append, ih]
      simp only [List.map_cons, List.intercalate_cons_cons]
      rfl

theorem flatMap_tokens (j : Json) : j.tokens.flatMap Token.chars = compactChars j := by
  induction j using Json.induction with
  | string text => simp [tokens, compactChars, Token.chars]
  | number n => simp [tokens, compactChars, Token.chars]
  | array items ih =>
    have hitems : (items.map tokens).map (·.flatMap Token.chars) = items.map compactChars := by
      rw [List.map_map]
      exact List.map_congr_left ih
    rw [tokens, compactChars, itemTokens_eq, compactItems_eq, ← hitems, enclose,
      ← flatMap_intercalate]
    simp [Token.chars]
  | object fields ih =>
    have hfields : (fields.map fun f => Token.string f.1 :: .colon :: f.2.tokens).map
        (·.flatMap Token.chars) =
        fields.map fun f => quote f.1 ++ ':' :: compactChars f.2 := by
      rw [List.map_map]
      refine List.map_congr_left fun f hf => ?_
      simp [Token.chars, ih f hf]
    rw [tokens, compactChars, fieldTokens_eq, compactFields_eq, ← hfields, enclose,
      ← flatMap_intercalate]
    simp [Token.chars]

/-- What is open around the value that is read: the parts read so far, nearest first, and the name
of a part that is one of several fields. -/
inductive Frame
  | array (done : List Json)
  | object (done : List (String × Json)) (key : String)

inductive Place
  | value
  | field (done : List (String × Json))
  | behind (j : Json)

def build : Place → List Frame → List Token → Option Json
  | .value, fs, .string text :: ts => build (.behind (.string text)) fs ts
  | .value, fs, .number n :: ts => build (.behind (.number n)) fs ts
  | .value, fs, .openArray :: .closeArray :: ts => build (.behind (.array [])) fs ts
  | .value, fs, .openArray :: ts => build .value (.array [] :: fs) ts
  | .value, fs, .openObject :: .closeObject :: ts => build (.behind (.object [])) fs ts
  | .value, fs, .openObject :: ts => build (.field []) fs ts
  | .field done, fs, .string key :: .colon :: ts => build .value (.object done key :: fs) ts
  | .behind j, .array done :: fs, .comma :: ts => build .value (.array (j :: done) :: fs) ts
  | .behind j, .array done :: fs, .closeArray :: ts =>
    build (.behind (.array (j :: done).reverse)) fs ts
  | .behind j, .object done key :: fs, .comma :: ts => build (.field ((key, j) :: done)) fs ts
  | .behind j, .object done key :: fs, .closeObject :: ts =>
    build (.behind (.object ((key, j) :: done).reverse)) fs ts
  | .behind j, [], [] => some j
  | _, _, _ => none

def Builds (j : Json) : Prop := ∀ fs ts, build .value fs (j.tokens ++ ts) = build (.behind j) fs ts

theorem build_items {j : Json} {items : List Json} (h : ∀ i ∈ j :: items, Builds i)
    (done : List Json) (fs : List Frame) (ts : List Token) :
    build .value (.array done :: fs)
      (List.intercalate [.comma] ((j :: items).map tokens) ++ .closeArray :: ts) =
      build (.behind (.array (done.reverse ++ j :: items))) fs ts := by
  induction items generalizing j done with
  | nil =>
    rw [List.map_singleton, List.intercalate_singleton, h j List.mem_cons_self, build]
    simp
  | cons i items ih =>
    obtain ⟨hj, hitems⟩ := List.forall_mem_cons.mp h
    rw [List.map_cons, List.map_cons, List.intercalate_cons_cons, List.append_assoc,
      List.append_assoc, hj]
    show build .value (.array (j :: done) :: fs) _ = _
    refine (ih hitems (j :: done)).trans ?_
    simp

theorem build_fields {f : String × Json} {fields : List (String × Json)}
    (h : ∀ g ∈ f :: fields, Builds g.2) (done : List (String × Json)) (fs : List Frame)
    (ts : List Token) :
    build (.field done) fs
        (List.intercalate [.comma]
          ((f :: fields).map fun g => .string g.1 :: .colon :: g.2.tokens) ++
          .closeObject :: ts) = build (.behind (.object (done.reverse ++ f :: fields))) fs ts := by
  induction fields generalizing f done with
  | nil =>
    rw [List.map_singleton, List.intercalate_singleton, List.cons_append, List.cons_append, build,
      h f List.mem_cons_self, build]
    simp
  | cons g fields ih =>
    obtain ⟨hf, hfields⟩ := List.forall_mem_cons.mp h
    rw [List.map_cons, List.map_cons, List.intercalate_cons_cons, List.append_assoc,
      List.append_assoc, List.cons_append, List.cons_append, build, hf]
    show build (.field (f :: done)) fs _ = _
    refine (ih hfields (f :: done)).trans ?_
    simp

theorem exists_tokens_cons (j : Json) : ∃ t ts, j.tokens = t :: ts ∧ t ≠ .closeArray := by
  cases j <;> exact ⟨_, _, rfl, nofun⟩

theorem builds (j : Json) : Builds j := by
  induction j using Json.induction with
  | string text => exact fun fs ts => rfl
  | number n => exact fun fs ts => rfl
  | array items ih =>
    intro fs ts
    rw [tokens, itemTokens_eq]
    cases items with
    | nil => rfl
    | cons j items =>
      -- the first token of the first item tells the list from an empty one
      have hitems := build_items ih [] fs ts
      obtain ⟨t, us, hj, hclose⟩ := exists_tokens_cons j
      rw [List.map_cons, hj, List.intercalate_cons_cons_left, List.cons_append] at hitems
      rw [List.map_cons, hj, List.intercalate_cons_cons_left, List.cons_append, List.cons_append,
        List.append_assoc, List.cons_append, build]
      · exact hitems
      · exact fun _ h => hclose (List.cons.inj h).1
  | object fields ih =>
    intro fs ts
    rw [tokens, fieldTokens_eq]
    cases fields with
    | nil => rfl
    | cons f fields =>
      have hfields := build_fields ih [] fs ts
      rw [List.map_cons, List.intercalate_cons_cons_left, List.cons_append] at hfields
      rw [List.map_cons, List.intercalate_cons_cons_left, List.cons_append, List.cons_append,
        List.append_assoc, List.cons_append]
      exact hfields

def read? (text : String) : Option Json := (scan text.toList).bind (build .value [])

theorem read?_of_spaced {j : Json} {cs : List Char} (h : Spaced j.tokens cs) :
    read? (String.ofList cs) = some j := by
  have hbuild := builds j [] []
  rw [List.append_nil] at hbuild
  rw [read?, String.toList_ofList, scan_spaced h, Option.bind_some, hbuild]
  rfl

@[simp] theorem read?_compact (j : Json) : read? j.compact = some j :=
  read?_of_spaced (writes_compact j).spaced

@[simp] theorem read?_pretty (j : Json) : read? j.pretty = some j :=
  read?_of_spaced (writes_pretty j 0).spaced

def withoutBlanks (text : String) : String := String.ofList (dropBlanks .outside text.toList)

theorem withoutBlanks_pretty (j : Json) : withoutBlanks j.pretty = j.compact := by
  rw [withoutBlanks, pretty, String.toList_ofList, dropBlanks_spaced (writes_pretty j 0).spaced,
    flatMap_tokens, compact]

end Keypad.Text.Json
