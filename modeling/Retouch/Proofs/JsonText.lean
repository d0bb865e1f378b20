/-
  The grammar of JSON texts.

  `Written` relates the values to the texts that stand for them: blanks are free between tokens, and a
  character of a string may stand for itself or be escaped, by a letter, by the four digits of its
  code, or by two such codes if it needs them (`Spells`).

  * `Quoted.readString?`: however a string is written, its text is read;
  * `Written.reads`: each part of the grammar is read as what it stands for, and the reader stops
    behind it;
  * `parse?_of_written`: a text that stands for a value is read as this value.
-/
import Mathlib.Data.List.DropRight
import Retouch.Json.Reader

namespace Retouch.Json

/-! ## Blanks -/

/-- Blanks between tokens. -/
def IsSpaces (b : Text) : Prop := ∀ c ∈ b, isSpace c = true

theorem isSpaces_nil : IsSpaces [] := by simp [IsSpaces]

theorem skipSpace_cons {c : Char} (h : isSpace c = true) (t : Text) :
    skipSpace (c :: t) = skipSpace t := List.dropWhile_cons_of_pos h

theorem skipSpace_of_not_isSpace {c : Char} (h : isSpace c = false) (t : Text) :
    skipSpace (c :: t) = c :: t := List.dropWhile_cons_of_neg (by simp [h])

theorem skipSpace_append {b : Text} (h : IsSpaces b) (t : Text) :
    skipSpace (b ++ t) = skipSpace t := by
  induction b with
  | nil => rfl
  | cons c b ih =>
    obtain ⟨hc, hb⟩ := List.forall_mem_cons.1 h
    rw [List.cons_append, skipSpace_cons hc, ih hb]

theorem skipSpace_skipSpace (t : Text) : skipSpace (skipSpace t) = skipSpace t :=
  List.dropWhile_idempotent isSpace t

/-! ## Strings -/

/-- The letters of the short escapes, with the characters they stand for. -/
def shortEscapes : List (Char × Char) :=
  [('"', '"'), ('\\', '\\'), ('/', '/'), ('b', '\x08'), ('f', '\x0c'), ('n', '\n'), ('r', '\r'),
    ('t', '\t')]

/-- A hexadecimal digit, in lower or upper case. -/
def IsHexDigit (d : Nat) (c : Char) : Prop :=
  d < 16 ∧ (c = Nat.digitChar d ∨ c = (Nat.digitChar d).toUpper)

/-- A number in four hexadecimal digits. -/
inductive IsCode : Nat → Text → Prop
  | digits {p q r s : Nat} {a b c d : Char} : IsHexDigit p a → IsHexDigit q b → IsHexDigit r c →
      IsHexDigit s d → IsCode (4096 * p + 256 * q + 16 * r + s) [a, b, c, d]

/-- The ways to write a character in a string. -/
inductive Spells : Char → Text → Prop
  | plain {c : Char} : 0x20 ≤ c.toNat → c ≠ '"' → c ≠ '\\' → Spells c [c]
  | short {e c : Char} : (e, c) ∈ shortEscapes → Spells c ['\\', e]
  | code {c : Char} {t : Text} : IsCode c.toNat t → Spells c ('\\' :: 'u' :: t)
  /-- A character above the four digits, as the two halves of a surrogate pair. -/
  | pair {c : Char} {high low : Nat} {t u : Text} : IsCode (0xD800 + high) t →
      IsCode (0xDC00 + low) u → high < 0x400 → low < 0x400 → c.toNat = 0x10000 + (high * 0x400 + low) →
      Spells c ('\\' :: 'u' :: (t ++ ('\\' :: 'u' :: u)))

/-- A text and how it is written in a string, through the closing quote. -/
inductive Quoted : Text → Text → Prop
  | nil : Quoted [] ['"']
  | cons {c : Char} {s t u : Text} : Spells c t → Quoted s u → Quoted (c :: s) (t ++ u)

theorem IsHexDigit.hexValue? {d : Nat} {c : Char} (h : IsHexDigit d c) :
    Json.hexValue? c = some d := by
  have hall : ∀ d < 16, Json.hexValue? (Nat.digitChar d) = some d ∧
      Json.hexValue? (Nat.digitChar d).toUpper = some d := by decide
  obtain ⟨hd, rfl | rfl⟩ := h
  · exact (hall d hd).1
  · exact (hall d hd).2

theorem IsCode.hexNumber? {n : Nat} {t : Text} (h : IsCode n t) : Json.hexNumber? t = some n := by
  obtain ⟨ha, hb, hc, hd⟩ := h
  simp only [Json.hexNumber?, List.foldlM_cons, List.foldlM_nil, ha.hexValue?, hb.hexValue?,
    hc.hexValue?, hd.hexValue?]
  simp
  omega

/-- The units of a character. -/
theorem stringUnits?_code {n : Nat} {t u rest : Text} {units : List Nat} (h : IsCode n t)
    (hu : stringUnits? u = some (units, rest)) :
    stringUnits? ('\\' :: 'u' :: (t ++ u)) = some (n :: units, rest) := by
  have hn := h.hexNumber?
  obtain ⟨ha, hb, hc, hd⟩ := h
  simp only [List.cons_append, List.nil_append]
  rw [stringUnits?, hn, hu]
  rfl

/-- No character is half of a surrogate pair. -/
theorem toNat_lt_or_le (c : Char) : c.toNat < 0xD800 ∨ 0xE000 ≤ c.toNat := by
  rcases c.valid with h | h
  · exact .inl h
  · exact .inr h.1

theorem unitsText?_toNat {c : Char} {units : List Nat} {s : Text} (h : unitsText? units = some s) :
    unitsText? (c.toNat :: units) = some (c :: s) := by
  have hvalid := toNat_lt_or_le c
  have hhigh : isHighSurrogate c.toNat = false := by
    simp [isHighSurrogate]
    omega
  have hlow : isLowSurrogate c.toNat = false := by
    simp [isLowSurrogate]
    omega
  rw [unitsText?.eq_def]
  simp [hhigh, hlow, h]

theorem unitsText?_pair {c : Char} {high low : Nat} {units : List Nat} {s : Text} (h₁ : high < 0x400)
    (h₂ : low < 0x400) (hc : c.toNat = 0x10000 + (high * 0x400 + low))
    (h : unitsText? units = some s) :
    unitsText? ((0xD800 + high) :: (0xDC00 + low) :: units) = some (c :: s) := by
  have hhigh : isHighSurrogate (0xD800 + high) = true := by
    simp [isHighSurrogate]
    omega
  have hlow : isLowSurrogate (0xDC00 + low) = true := by
    simp [isLowSurrogate]
    omega
  have hchar : Char.ofNat (0x10000 + high * 0x400 + low) = c := by
    rw [Nat.add_assoc, ← hc, Char.ofNat_toNat]
  rw [unitsText?.eq_def]
  simp [hhigh, hlow, h, hchar]

/-- A character is read, however it is written. -/
theorem Spells.stringUnits? {c : Char} {t u rest : Text} {units : List Nat} {s : Text}
    (h : Spells c t) (hu : Json.stringUnits? u = some (units, rest))
    (hs : unitsText? units = some s) :
    ∃ units', Json.stringUnits? (t ++ u) = some (units', rest) ∧
      unitsText? units' = some (c :: s) := by
  cases h with
  | plain hc hquote hslash =>
    refine ⟨_, ?_, unitsText?_toNat hs⟩
    rw [List.singleton_append, Json.stringUnits?]
    · rw [if_neg (by omega), hu]
      rfl
    · exact hquote
    · intro a b c' d t' h
      exact absurd h hslash
    · intro c' t' h
      exact absurd h hslash
  | @short e _ he =>
    refine ⟨_, ?_, unitsText?_toNat hs⟩
    have hall : ∀ p ∈ shortEscapes, p.1 ≠ 'u' ∧ escaped? p.1 = some p.2.toNat := by decide
    obtain ⟨hne, hescaped⟩ := hall _ he
    rw [List.cons_append, List.singleton_append, Json.stringUnits?]
    · rw [hescaped, hu]
      rfl
    · intro a b c' d t' h
      exact absurd h hne
  | code hcode => exact ⟨_, stringUnits?_code hcode hu, unitsText?_toNat hs⟩
  | pair hhigh hlow h₁ h₂ hc =>
    rw [List.cons_append, List.cons_append, List.append_assoc]
    exact ⟨_, stringUnits?_code hhigh (stringUnits?_code hlow hu), unitsText?_pair h₁ h₂ hc hs⟩

/-- **However a string is written, its text is read.** -/
theorem Quoted.readString? {s t : Text} (h : Quoted s t) (rest : Text) :
    Json.readString? (t ++ rest) = some (some s, rest) := by
  have hunits : ∃ units, stringUnits? (t ++ rest) = some (units, rest) ∧
      unitsText? units = some s := by
    induction h with
    | nil => exact ⟨[], rfl, rfl⟩
    | cons hc _ ih =>
      obtain ⟨units, hread, htext⟩ := ih
      rw [List.append_assoc]
      exact hc.stringUnits? hread htext
  obtain ⟨units, hread, htext⟩ := hunits
  rw [Json.readString?, hread]
  simp [htext]

/-! ## Numbers -/

/-- A sequence of digits. -/
def IsDigits (ds : Text) : Prop := ds ≠ [] ∧ ∀ c ∈ ds, c.isDigit = true

/-- A whole number, without a zero in front of other digits. -/
def IsWhole (ds : Text) : Prop := IsDigits ds ∧ (ds.head? = some '0' → ds.length = 1)

/-- Decimal places, or nothing. -/
def IsPlaces (t : Text) : Prop := t = [] ∨ ∃ ds, IsDigits ds ∧ t = '.' :: ds

/-- An exponent, or nothing. -/
def IsExponent (t : Text) : Prop :=
  t = [] ∨ ∃ e s ds, (e = 'e' ∨ e = 'E') ∧ (s = [] ∨ s = ['+'] ∨ s = ['-']) ∧ IsDigits ds ∧
    t = e :: (s ++ ds)

/-- The texts of numbers. -/
inductive IsNumber : Text → Prop
  | parts {sign whole places exponent : Text} : sign = [] ∨ sign = ['-'] → IsWhole whole →
      IsPlaces places → IsExponent exponent → IsNumber (sign ++ whole ++ places ++ exponent)

/-- What may follow a value: a blank, or a token that ends it. -/
def isEnd (c : Char) : Bool := isSpace c || c == ',' || c == ']' || c == '}'

/-- The text ends, or goes on with what may follow a value. -/
def IsEnded (t : Text) : Prop := ∀ c ∈ t.head?, isEnd c = true

theorem isDigit_of_isEnd {c : Char} (h : isEnd c = true) : c.isDigit = false := by
  simp only [isEnd, isSpace, Bool.or_eq_true, beq_iff_eq] at h
  rcases h with ((((((rfl | rfl) | rfl) | rfl) | rfl) | rfl) | rfl) <;> decide

theorem readDigits?_append {ds rest : Text} (h : IsDigits ds)
    (hrest : ∀ c ∈ rest.head?, c.isDigit = false) : readDigits? (ds ++ rest) = some (ds, rest) := by
  have htake : (ds ++ rest).takeWhile Char.isDigit = ds := by
    rw [List.takeWhile_append_of_pos h.2]
    cases rest with
    | nil => simp
    | cons c rest => rw [List.takeWhile_cons_of_neg (by rw [hrest c rfl]; decide), List.append_nil]
  have hdrop : (ds ++ rest).dropWhile Char.isDigit = rest := by
    have hall := List.takeWhile_append_dropWhile (p := Char.isDigit) (l := ds ++ rest)
    rw [htake] at hall
    exact List.append_cancel_left hall
  rw [readDigits?, htake, hdrop, if_neg (by simpa using h.1)]

theorem readExponent?_append {exponent rest : Text} (h : IsExponent exponent)
    (hrest : IsEnded rest) : readExponent? (exponent ++ rest) = some (exponent, rest) := by
  rcases h with rfl | ⟨e, s, ds, he, hs, hds, rfl⟩
  · cases rest with
    | nil => rfl
    | cons c rest =>
      have hc : ¬ (c = 'e' ∨ c = 'E') := by
        rintro (rfl | rfl) <;> exact absurd (hrest _ rfl) (by decide)
      rw [List.nil_append, readExponent?, if_neg hc]
  · have hdigits := readDigits?_append hds fun c hc => isDigit_of_isEnd (hrest c hc)
    have hsign : readSign (s ++ (ds ++ rest)) = (s, ds ++ rest) := by
      rcases hs with rfl | rfl | rfl
      · obtain ⟨d, ds, rfl⟩ := List.exists_cons_of_ne_nil hds.1
        have hd := hds.2 d List.mem_cons_self
        rw [List.nil_append, List.cons_append, readSign]
        · rintro r ⟨⟩
          exact absurd hd (by decide)
        · rintro r ⟨⟩
          exact absurd hd (by decide)
      · rfl
      · rfl
    rw [List.cons_append, List.append_assoc, readExponent?, if_pos he, hsign]
    simp [hdigits]

theorem head?_exponent_append {exponent rest : Text} (h : IsExponent exponent)
    (hrest : IsEnded rest) : ∀ c ∈ (exponent ++ rest).head?, c.isDigit = false ∧ c ≠ '.' := by
  rcases h with rfl | ⟨e, s, ds, he, -, -, rfl⟩
  · intro c hc
    refine ⟨isDigit_of_isEnd (hrest c hc), ?_⟩
    rintro rfl
    exact absurd (hrest _ hc) (by decide)
  · rintro c ⟨⟩
    rcases he with rfl | rfl <;> decide

theorem readPlaces?_append {places rest : Text} (h : IsPlaces places)
    (hrest : ∀ c ∈ rest.head?, c.isDigit = false ∧ c ≠ '.') :
    readPlaces? (places ++ rest) = some (places, rest) := by
  rcases h with rfl | ⟨ds, hds, rfl⟩
  · rw [List.nil_append, readPlaces?]
    rintro r rfl
    exact absurd rfl (hrest '.' rfl).2
  · rw [List.cons_append, readPlaces?, readDigits?_append hds fun c hc => (hrest c hc).1]
    rfl

theorem readWhole?_append {whole rest : Text} (h : IsWhole whole)
    (hrest : ∀ c ∈ rest.head?, c.isDigit = false) :
    readWhole? (whole ++ rest) = some (whole, rest) := by
  have hzero : ¬ (whole.head? = some '0' ∧ 1 < whole.length) := by
    rintro ⟨hhead, hlen⟩
    have := h.2 hhead
    omega
  rw [readWhole?, readDigits?_append h.1 hrest]
  simp only [Option.bind_eq_bind, Option.bind_some, if_neg hzero]

/-- A number is read through its last digit. -/
theorem IsNumber.readNumber? {t rest : Text} (h : IsNumber t) (hrest : IsEnded rest) :
    Json.readNumber? (t ++ rest) = some (t, rest) := by
  obtain ⟨hsign, hwhole, hplaces, hexponent⟩ := h
  rename_i sign whole places exponent
  have hafter := head?_exponent_append hexponent hrest
  have hdigit : ∀ c ∈ (places ++ (exponent ++ rest)).head?, c.isDigit = false := by
    rcases hplaces with rfl | ⟨ds, -, rfl⟩
    · exact fun c hc => (hafter c hc).1
    · rintro c ⟨⟩
      decide
  have hread := readWhole?_append hwhole hdigit
  simp only [List.append_assoc]
  rcases hsign with rfl | rfl
  · rw [List.nil_append, Json.readNumber?]
    · simp [hread, readPlaces?_append hplaces hafter, readExponent?_append hexponent hrest]
    · intro r hr
      obtain ⟨d, ds, rfl⟩ := List.exists_cons_of_ne_nil hwhole.1.1
      obtain rfl := (List.cons.inj hr).1
      exact absurd (hwhole.1.2 '-' List.mem_cons_self) (by decide)
  · rw [List.singleton_append, Json.readNumber?]
    simp [hread, readPlaces?_append hplaces hafter, readExponent?_append hexponent hrest]

theorem IsNumber.head? {t : Text} (h : IsNumber t) :
    ∃ c r, t = c :: r ∧ (c = '-' ∨ c.isDigit = true) := by
  obtain ⟨hsign, hwhole, hplaces, hexponent⟩ := h
  obtain ⟨d, ds, rfl⟩ := List.exists_cons_of_ne_nil hwhole.1.1
  rcases hsign with rfl | rfl
  · exact ⟨d, _, rfl, .inr (hwhole.1.2 d List.mem_cons_self)⟩
  · exact ⟨'-', _, rfl, .inl rfl⟩

/-! ## Values -/

/-- The parts of a JSON text. -/
inductive Part where
  | value (j : Json)
  /-- The items of an array, at least one, through the closing bracket. -/
  | items (js : List Json)
  /-- What follows an item, through the closing bracket. -/
  | moreItems (js : List Json)
  /-- The fields of an object, at least one, through the closing brace. -/
  | fields (fs : List (Option Text × Json))
  /-- What follows a field, through the closing brace. -/
  | moreFields (fs : List (Option Text × Json))

/-- **The grammar of JSON texts.**  Blanks may stand in front of each part. -/
inductive Written : Part → Text → Prop
  | blank {p : Part} {c : Char} {t : Text} : isSpace c = true → Written p t → Written p (c :: t)
  | null : Written (.value .null) "null".toList
  | bool (b : Bool) : Written (.value (.bool b)) (if b then "true" else "false").toList
  | number {t : Text} : IsNumber t → Written (.value (.num t)) t
  | string {s t : Text} : Quoted s t → Written (.value (.text s)) ('"' :: t)
  | emptyArray {b : Text} : IsSpaces b → Written (.value (.arr [])) ('[' :: (b ++ [']']))
  | array {js : List Json} {t : Text} : Written (.items js) t → Written (.value (.arr js)) ('[' :: t)
  | items {j : Json} {js : List Json} {t u : Text} : Written (.value j) t →
      Written (.moreItems js) u → Written (.items (j :: js)) (t ++ u)
  | lastItem : Written (.moreItems []) [']']
  | nextItem {js : List Json} {t : Text} : Written (.items js) t → Written (.moreItems js) (',' :: t)
  | emptyObject {b : Text} : IsSpaces b → Written (.value (.obj [])) ('{' :: (b ++ ['}']))
  | object {fs : List (Option Text × Json)} {t : Text} : Written (.fields fs) t →
      Written (.value (.obj fs)) ('{' :: t)
  | fields {key k b t u : Text} {j : Json} {fs : List (Option Text × Json)} : Quoted key k →
      IsSpaces b → Written (.value j) t → Written (.moreFields fs) u →
      Written (.fields ((some key, j) :: fs)) ('"' :: (k ++ (b ++ ':' :: (t ++ u))))
  | lastField : Written (.moreFields []) ['}']
  | nextField {fs : List (Option Text × Json)} {t : Text} : Written (.fields fs) t →
      Written (.moreFields fs) (',' :: t)

/-! ## Reading values -/

section Step

variable (fuel : Nat) (t : Text)

theorem readValue?_quote :
    readValue? (fuel + 1) ('"' :: t) = (readString? t).map fun (s, rest) => (.str s, rest) := rfl

theorem readValue?_bracket : readValue? (fuel + 1) ('[' :: t) =
    match skipSpace t with
    | ']' :: rest => some (.arr [], rest)
    | t => (readItems? fuel t).map fun (items, rest) => (.arr items, rest) := rfl

theorem readValue?_brace : readValue? (fuel + 1) ('{' :: t) =
    match skipSpace t with
    | '}' :: rest => some (.obj [], rest)
    | t => (readFields? fuel t).map fun (fields, rest) => (.obj fields, rest) := rfl

theorem readItems?_bracket : readItems? fuel (']' :: t) = none := by
  rcases fuel with _ | _ | fuel <;> rfl

theorem readFields?_brace : readFields? fuel ('}' :: t) = none := by
  rcases fuel with _ | fuel <;> rfl

theorem readValue?_skipSpace : readValue? fuel (skipSpace t) = readValue? fuel t := by
  cases fuel with
  | zero => rfl
  | succ fuel => rw [readValue?, readValue?, skipSpace_skipSpace]

theorem readItems?_skipSpace : readItems? fuel (skipSpace t) = readItems? fuel t := by
  cases fuel with
  | zero => rfl
  | succ fuel => rw [readItems?, readItems?, readValue?_skipSpace]

theorem readFields?_skipSpace : readFields? fuel (skipSpace t) = readFields? fuel t := by
  cases fuel with
  | zero => rfl
  | succ fuel => rw [readFields?, readFields?, skipSpace_skipSpace]

end Step

theorem readValue?_number {c : Char} (h : c = '-' ∨ c.isDigit = true) (fuel : Nat) (t : Text) :
    readValue? (fuel + 1) (c :: t) =
      (readNumber? (c :: t)).map fun (n, rest) => (.num n, rest) := by
  have hspace : isSpace c = false := by
    rw [← Bool.not_eq_true]
    intro hs
    have hdigit := isDigit_of_isEnd (c := c) (by simp [isEnd, hs])
    rcases h with rfl | h
    · exact absurd hs (by decide)
    · exact absurd (h.symm.trans hdigit) (by decide)
  rw [readValue?, skipSpace_of_not_isSpace hspace]
  split
  · next heq => exact absurd heq (List.cons_ne_nil _ _)
  all_goals first
    | rfl
    | (rename_i heq; obtain rfl := (List.cons.inj heq).1; exact absurd h (by decide))

theorem readValue?_emptyArray {b : Text} (h : IsSpaces b) (fuel : Nat) (rest : Text) :
    readValue? (fuel + 1) ('[' :: (b ++ ']' :: rest)) = some (.arr [], rest) := by
  rw [readValue?_bracket, skipSpace_append h]
  rfl

theorem readValue?_array {fuel : Nat} {t rest : Text} {js : List Json}
    (h : readItems? fuel t = some (js, rest)) :
    readValue? (fuel + 1) ('[' :: t) = some (.arr js, rest) := by
  rw [← readItems?_skipSpace] at h
  rw [readValue?_bracket]
  -- no item starts with the closing bracket
  split
  · next heq =>
    rw [heq, readItems?_bracket] at h
    exact absurd h (by simp)
  · rw [h]
    rfl

theorem readValue?_emptyObject {b : Text} (h : IsSpaces b) (fuel : Nat) (rest : Text) :
    readValue? (fuel + 1) ('{' :: (b ++ '}' :: rest)) = some (.obj [], rest) := by
  rw [readValue?_brace, skipSpace_append h]
  rfl

theorem readValue?_object {fuel : Nat} {t rest : Text} {fs : List (Option Text × Json)}
    (h : readFields? fuel t = some (fs, rest)) :
    readValue? (fuel + 1) ('{' :: t) = some (.obj fs, rest) := by
  rw [← readFields?_skipSpace] at h
  rw [readValue?_brace]
  split
  · next heq =>
    rw [heq, readFields?_brace] at h
    exact absurd h (by simp)
  · rw [h]
    rfl

/-- What follows an item: the end of the array, or a comma and more items. -/
def GoesOnItems (fuel : Nat) (t : Text) (js : List Json) (rest : Text) : Prop :=
  (js = [] ∧ skipSpace t = ']' :: rest) ∨
    ∃ u, skipSpace t = ',' :: u ∧ readItems? fuel u = some (js, rest)

/-- What follows a field: the end of the object, or a comma and more fields. -/
def GoesOnFields (fuel : Nat) (t : Text) (fs : List (Option Text × Json)) (rest : Text) : Prop :=
  (fs = [] ∧ skipSpace t = '}' :: rest) ∨
    ∃ u, skipSpace t = ',' :: u ∧ readFields? fuel u = some (fs, rest)

theorem readItems?_cons {fuel : Nat} {t u rest : Text} {j : Json} {js : List Json}
    (h : readValue? fuel t = some (j, u)) (hmore : GoesOnItems fuel u js rest) :
    readItems? (fuel + 1) t = some (j :: js, rest) := by
  rw [readItems?, h]
  rcases hmore with ⟨rfl, hskip⟩ | ⟨u, hskip, hread⟩
  · simp [hskip]
  · simp [hskip, hread]

theorem readFields?_cons {fuel : Nat} {k b t u rest : Text} {key : Option Text} {j : Json}
    {fs : List (Option Text × Json)} (hkey : ∀ rest, readString? (k ++ rest) = some (key, rest))
    (hb : IsSpaces b) (h : readValue? fuel t = some (j, u)) (hmore : GoesOnFields fuel u fs rest) :
    readFields? (fuel + 1) ('"' :: (k ++ (b ++ ':' :: t))) = some ((key, j) :: fs, rest) := by
  have hcolon : skipSpace (b ++ ':' :: t) = ':' :: t := by
    rw [skipSpace_append hb, skipSpace_of_not_isSpace (by decide)]
  rw [readFields?, skipSpace_of_not_isSpace (by decide)]
  rcases hmore with ⟨rfl, hskip⟩ | ⟨u, hskip, hread⟩
  · simp [hkey, hcolon, h, hskip]
  · simp [hkey, hcolon, h, hskip, hread]

/-- What the reader does at each part of a text, given fuel for its length. -/
def Reads (t : Text) : Part → Prop
  | .value j => ∀ fuel rest, t.length ≤ fuel → IsEnded rest →
      readValue? (fuel + 1) (t ++ rest) = some (j, rest)
  | .items js => ∀ fuel rest, t.length ≤ fuel → readItems? (fuel + 1) (t ++ rest) = some (js, rest)
  | .moreItems js => (∀ rest, IsEnded (t ++ rest)) ∧
      ∀ fuel rest, t.length ≤ fuel → GoesOnItems fuel (t ++ rest) js rest
  | .fields fs => ∀ fuel rest, t.length ≤ fuel → readFields? (fuel + 1) (t ++ rest) = some (fs, rest)
  | .moreFields fs => (∀ rest, IsEnded (t ++ rest)) ∧
      ∀ fuel rest, t.length ≤ fuel → GoesOnFields fuel (t ++ rest) fs rest

theorem isEnded_cons {c : Char} (h : isEnd c = true) (t : Text) : IsEnded (c :: t) := by
  rintro d ⟨⟩
  exact h

theorem exists_fuel {c : Char} {t : Text} {fuel : Nat} (h : (c :: t).length ≤ fuel) :
    ∃ k, fuel = k + 1 ∧ t.length ≤ k := by
  rw [List.length_cons] at h
  exact ⟨fuel - 1, by omega, by omega⟩

/-- A blank in front of a part changes nothing. -/
theorem Reads.blank {p : Part} {c : Char} {t : Text} (hc : isSpace c = true) (h : Reads t p) :
    Reads (c :: t) p := by
  have hend : ∀ rest, IsEnded (c :: t ++ rest) := fun rest => isEnded_cons (by simp [isEnd, hc]) _
  have hskip : ∀ rest, skipSpace (c :: t ++ rest) = skipSpace (t ++ rest) := fun rest =>
    skipSpace_cons hc _
  cases p with
  | value j =>
    intro fuel rest hfuel hrest
    rw [← readValue?_skipSpace, hskip, readValue?_skipSpace]
    exact h fuel rest (Nat.le_of_succ_le hfuel) hrest
  | items js =>
    intro fuel rest hfuel
    rw [← readItems?_skipSpace, hskip, readItems?_skipSpace]
    exact h fuel rest (Nat.le_of_succ_le hfuel)
  | moreItems js =>
    refine ⟨hend, fun fuel rest hfuel => ?_⟩
    rw [GoesOnItems, hskip]
    exact h.2 fuel rest (Nat.le_of_succ_le hfuel)
  | fields fs =>
    intro fuel rest hfuel
    rw [← readFields?_skipSpace, hskip, readFields?_skipSpace]
    exact h fuel rest (Nat.le_of_succ_le hfuel)
  | moreFields fs =>
    refine ⟨hend, fun fuel rest hfuel => ?_⟩
    rw [GoesOnFields, hskip]
    exact h.2 fuel rest (Nat.le_of_succ_le hfuel)

theorem Reads.length_pos_of_moreItems {js : List Json} {t : Text} (h : Reads t (.moreItems js)) :
    0 < t.length := by
  cases t with
  | nil => exact absurd (h.1 ['x'] 'x' rfl) (by decide)
  | cons c t => exact Nat.succ_pos _

theorem Reads.length_pos_of_moreFields {fs : List (Option Text × Json)} {t : Text}
    (h : Reads t (.moreFields fs)) : 0 < t.length := by
  cases t with
  | nil => exact absurd (h.1 ['x'] 'x' rfl) (by decide)
  | cons c t => exact Nat.succ_pos _

section Parts

variable {b k t u : Text} {j : Json} {js : List Json} {fs : List (Option Text × Json)}

theorem reads_null : Reads "null".toList (.value .null) := fun _ _ _ _ => rfl

theorem reads_bool (b : Bool) : Reads (if b then "true" else "false").toList (.value (.bool b)) := by
  cases b <;> exact fun _ _ _ _ => rfl

theorem IsNumber.reads (h : IsNumber t) : Reads t (.value (.num t)) := by
  intro fuel rest _ hrest
  obtain ⟨c, r, rfl, hc⟩ := h.head?
  rw [List.cons_append, readValue?_number hc, ← List.cons_append, h.readNumber? hrest]
  rfl

theorem reads_string {s : Option Text} (h : ∀ rest, readString? (k ++ rest) = some (s, rest)) :
    Reads ('"' :: k) (.value (.str s)) := by
  intro fuel rest _ _
  rw [List.cons_append, readValue?_quote, h]
  rfl

theorem reads_emptyArray (hb : IsSpaces b) : Reads ('[' :: (b ++ [']'])) (.value (.arr [])) := by
  intro fuel rest _ _
  rw [List.cons_append, List.append_assoc]
  exact readValue?_emptyArray hb fuel rest

theorem Reads.array (h : Reads t (.items js)) : Reads ('[' :: t) (.value (.arr js)) := by
  intro fuel rest hfuel _
  obtain ⟨fuel, rfl, hlen⟩ := exists_fuel hfuel
  exact readValue?_array (h fuel rest hlen)

theorem Reads.items (hj : Reads t (.value j)) (hjs : Reads u (.moreItems js)) :
    Reads (t ++ u) (.items (j :: js)) := by
  intro fuel rest hfuel
  have hpos := hjs.length_pos_of_moreItems
  rw [List.length_append] at hfuel
  obtain ⟨fuel, rfl⟩ : ∃ k, fuel = k + 1 := ⟨fuel - 1, by omega⟩
  rw [List.append_assoc]
  exact readItems?_cons (hj fuel _ (by omega) (hjs.1 rest)) (hjs.2 (fuel + 1) rest (by omega))

theorem reads_lastItem : Reads [']'] (.moreItems []) :=
  ⟨fun rest => isEnded_cons (by decide) rest, fun _ _ _ => .inl ⟨rfl, rfl⟩⟩

theorem Reads.nextItem (h : Reads t (.items js)) : Reads (',' :: t) (.moreItems js) := by
  refine ⟨fun rest => isEnded_cons (by decide) _, fun fuel rest hfuel => .inr ⟨_, rfl, ?_⟩⟩
  obtain ⟨fuel, rfl, hlen⟩ := exists_fuel hfuel
  exact h fuel rest hlen

theorem reads_emptyObject (hb : IsSpaces b) : Reads ('{' :: (b ++ ['}'])) (.value (.obj [])) := by
  intro fuel rest _ _
  rw [List.cons_append, List.append_assoc]
  exact readValue?_emptyObject hb fuel rest

theorem Reads.object (h : Reads t (.fields fs)) : Reads ('{' :: t) (.value (.obj fs)) := by
  intro fuel rest hfuel _
  obtain ⟨fuel, rfl, hlen⟩ := exists_fuel hfuel
  exact readValue?_object (h fuel rest hlen)

theorem Reads.fields {key : Option Text} (hkey : ∀ rest, readString? (k ++ rest) = some (key, rest))
    (hb : IsSpaces b) (hj : Reads t (.value j)) (hfs : Reads u (.moreFields fs)) :
    Reads ('"' :: (k ++ (b ++ ':' :: (t ++ u)))) (.fields ((key, j) :: fs)) := by
  intro fuel rest hfuel
  have hpos := hfs.length_pos_of_moreFields
  simp only [List.length_append, List.length_cons] at hfuel
  obtain ⟨fuel, rfl⟩ : ∃ k, fuel = k + 1 := ⟨fuel - 1, by omega⟩
  simp only [List.cons_append, List.append_assoc]
  exact readFields?_cons hkey hb (hj fuel _ (by omega) (hfs.1 rest))
    (hfs.2 (fuel + 1) rest (by omega))

theorem reads_lastField : Reads ['}'] (.moreFields []) :=
  ⟨fun rest => isEnded_cons (by decide) rest, fun _ _ _ => .inl ⟨rfl, rfl⟩⟩

theorem Reads.nextField (h : Reads t (.fields fs)) : Reads (',' :: t) (.moreFields fs) := by
  refine ⟨fun rest => isEnded_cons (by decide) _, fun fuel rest hfuel => .inr ⟨_, rfl, ?_⟩⟩
  obtain ⟨fuel, rfl, hlen⟩ := exists_fuel hfuel
  exact h fuel rest hlen

end Parts

/-- **Each part of the grammar is read as what it stands for.** -/
theorem Written.reads {p : Part} {t : Text} (h : Written p t) : Reads t p := by
  induction h with
  | blank hc _ ih => exact ih.blank hc
  | null => exact reads_null
  | bool b => exact reads_bool b
  | number hn => exact hn.reads
  | string hs => exact reads_string hs.readString?
  | emptyArray hb => exact reads_emptyArray hb
  | array _ ih => exact ih.array
  | items _ _ ih ihmore => exact ih.items ihmore
  | lastItem => exact reads_lastItem
  | nextItem _ ih => exact ih.nextItem
  | emptyObject hb => exact reads_emptyObject hb
  | object _ ih => exact ih.object
  | fields hkey hb _ _ ih ihmore => exact ih.fields hkey.readString? hb ihmore
  | lastField => exact reads_lastField
  | nextField _ ih => exact ih.nextField

theorem parse?_of_reads {j : Json} {t b : Text} (h : Reads t (.value j)) (hb : IsSpaces b) :
    parse? (t ++ b) = some j := by
  have hrest : IsEnded b := by
    intro c hc
    simp [isEnd, hb c (List.mem_of_mem_head? hc)]
  have hread := h (2 * (t ++ b).length + 1) b (by rw [List.length_append]; omega) hrest
  have hskip : skipSpace b = [] := List.dropWhile_eq_nil_iff.2 hb
  rw [parse?, hread]
  simp [hskip]

/-- **A text that stands for a value is read as this value.** -/
theorem parse?_of_written {j : Json} {t b : Text} (h : Written (.value j) t) (hb : IsSpaces b) :
    parse? (t ++ b) = some j := parse?_of_reads h.reads hb

/-! ## The ends of a text -/

/-- The opening bracket of an array or an object. -/
def bracket? : Json → Option Char
  | .arr _ => some '['
  | .obj _ => some '{'
  | _ => none

theorem Written.exists_of_bracket {j : Json} {t : Text} (h : Written (.value j) t) {c : Char}
    (hc : bracket? j = some c) : ∃ b r, t = b ++ c :: r ∧ IsSpaces b := by
  generalize hp : Part.value j = p at h
  induction h with
  | blank hspace _ ih =>
    obtain ⟨b, r, rfl, hb⟩ := ih hp
    exact ⟨_ :: b, r, rfl, List.forall_mem_cons.2 ⟨hspace, hb⟩⟩
  | _ =>
    cases hp <;> cases hc <;> exact ⟨[], _, rfl, isSpaces_nil⟩

/-- The parts that end with a closing brace. -/
def Part.endsObject : Part → Bool
  | .value (.obj _) => true
  | .fields _ => true
  | .moreFields _ => true
  | _ => false

theorem Written.getLast? {p : Part} {t : Text} (h : Written p t) (hp : p.endsObject = true) :
    t.getLast? = some '}' := by
  have hcons : ∀ {c : Char} {t : Text}, t.getLast? = some '}' → (c :: t).getLast? = some '}' := by
    intro c t ht
    rw [List.getLast?_cons, ht]
    rfl
  induction h with
  | blank _ _ ih => exact hcons (ih hp)
  | emptyObject => simp [List.getLast?_cons]
  | object _ ih => exact hcons (ih rfl)
  | fields _ _ _ _ _ ih => simp [List.getLast?_cons, List.getLast?_append, ih rfl]
  | lastField => rfl
  | nextField _ ih => exact hcons (ih rfl)
  | _ => exact absurd hp (by simp [Part.endsObject, Json.text])

/-! ## Writing -/

theorem spells_escapeChar (c : Char) : Spells c (escapeChar c) := by
  have hshort : ∀ {e d : Char}, c.toNat = d.toNat → (e, d) ∈ shortEscapes → Spells c ['\\', e] := by
    intro e d hd he
    obtain rfl := Char.toNat_inj.1 hd
    exact .short he
  fun_cases escapeChar c with
  | case1 h => exact hshort (congrArg Char.toNat h) (by decide)
  | case2 _ h => exact hshort (congrArg Char.toNat h) (by decide)
  | case3 _ _ h => exact hshort (d := '\x08') h (by decide)
  | case4 _ _ _ h => exact hshort (congrArg Char.toNat h) (by decide)
  | case5 _ _ _ _ h => exact hshort (congrArg Char.toNat h) (by decide)
  | case6 _ _ _ _ _ h => exact hshort (d := '\x0c') h (by decide)
  | case7 _ _ _ _ _ _ h => exact hshort (congrArg Char.toNat h) (by decide)
  | case8 =>
    have hzero : IsHexDigit 0 '0' := ⟨by decide, .inl rfl⟩
    have hcode := IsCode.digits hzero hzero (r := c.toNat / 16) (s := c.toNat % 16)
      ⟨by omega, .inl rfl⟩ ⟨by omega, .inl rfl⟩
    rw [show 4096 * 0 + 256 * 0 + 16 * (c.toNat / 16) + c.toNat % 16 = c.toNat by omega] at hcode
    exact .code hcode
  | case9 hquote hslash => exact .plain (by omega) hquote hslash

theorem quoted_escape (s : Text) : Quoted s (s.flatMap escapeChar ++ ['"']) := by
  induction s with
  | nil => exact .nil
  | cons c s ih =>
    rw [List.flatMap_cons, List.append_assoc]
    exact .cons (spells_escapeChar c) ih

theorem IsCode.not_mem_newline {n : Nat} {t : Text} (h : IsCode n t) : '\n' ∉ t := by
  have hne : ∀ {d : Nat} {c : Char}, IsHexDigit d c → '\n' ≠ c := by
    rintro d c hc rfl
    have hnone : Json.hexValue? '\n' = none := by decide
    exact absurd (hc.hexValue?.symm.trans hnone) (by simp)
  obtain ⟨ha, hb, hc, hd⟩ := h
  simp [hne ha, hne hb, hne hc, hne hd]

theorem Spells.not_mem_newline {c : Char} {t : Text} (h : Spells c t) : '\n' ∉ t := by
  cases h with
  | plain hc =>
    rw [List.mem_singleton]
    rintro rfl
    exact absurd hc (by decide)
  | short he =>
    have hall : ∀ p ∈ shortEscapes, '\n' ∉ ['\\', p.1] := by decide
    exact hall _ he
  | code hcode => simp [hcode.not_mem_newline]
  | pair hhigh hlow => simp [hhigh.not_mem_newline, hlow.not_mem_newline]

/-- No string holds a newline as it is. -/
theorem Quoted.not_mem_newline {s t : Text} (h : Quoted s t) : '\n' ∉ t := by
  induction h with
  | nil => decide
  | cons hc _ ih => simp [hc.not_mem_newline, ih]

end Retouch.Json
