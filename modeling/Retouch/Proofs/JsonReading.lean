/-
  What the reader of JSON texts consumes.

  The reader takes a front part of a text and hands back the rest.  What it takes does not depend on
  the rest: in front of any other text that can follow a value it is read as the same value
  (`Consumed`), and its last character is no blank.

  * `exists_of_stringUnits?` and `isNumber_of_readNumber?`: strings and numbers;
  * `consumed_of_read`: values, by the recursion of the reader;
  * `parse?_append_spaces`: blanks at the end of a text do not matter.
-/
import Retouch.Proofs.JsonText

namespace Retouch.Json

/-- A text that ends with something else than a blank. -/
def IsFirm (u : Text) : Prop := ∃ v c, u = v ++ [c] ∧ isSpace c = false

theorem isFirm_singleton {c : Char} (h : isSpace c = false) : IsFirm [c] := ⟨[], c, rfl, h⟩

theorem IsFirm.append {u : Text} (h : IsFirm u) (t : Text) : IsFirm (t ++ u) := by
  obtain ⟨v, c, rfl, hc⟩ := h
  exact ⟨t ++ v, c, by rw [List.append_assoc], hc⟩

theorem IsFirm.cons {u : Text} (h : IsFirm u) (c : Char) : IsFirm (c :: u) := h.append [c]

/-! ## Strings -/

/-- A string is read through its closing quote, whatever follows. -/
theorem exists_of_stringUnits? {t rest : Text} {units : List Nat}
    (h : stringUnits? t = some (units, rest)) :
    ∃ u, t = u ++ rest ∧ IsFirm u ∧ ∀ e, stringUnits? (u ++ e) = some (units, e) := by
  fun_induction stringUnits? t generalizing units with
  | case1 => simp at h
  | case2 t =>
    obtain ⟨rfl, rfl⟩ := Prod.mk.inj (Option.some.inj h)
    exact ⟨['"'], rfl, isFirm_singleton (by decide), fun e => rfl⟩
  | case3 a b c d t ih =>
    simp only [Option.bind_eq_bind, Option.bind_eq_some_iff] at h
    obtain ⟨n, hn, ⟨units', rest'⟩, hread, hout⟩ := h
    obtain ⟨rfl, rfl⟩ := Prod.mk.inj (Option.some.inj hout)
    obtain ⟨u, rfl, hfirm, hall⟩ := ih hread
    refine ⟨['\\', 'u', a, b, c, d] ++ u, rfl, hfirm.append _, fun e => ?_⟩
    simp only [List.cons_append, List.nil_append]
    rw [stringUnits?, hn, hall]
    rfl
  | case4 c t _ ih =>
    simp only [Option.bind_eq_bind, Option.bind_eq_some_iff] at h
    obtain ⟨n, hn, ⟨units', rest'⟩, hread, hout⟩ := h
    obtain ⟨rfl, rfl⟩ := Prod.mk.inj (Option.some.inj hout)
    obtain ⟨u, rfl, hfirm, hall⟩ := ih hread
    refine ⟨['\\', c] ++ u, rfl, hfirm.append _, fun e => ?_⟩
    simp only [List.cons_append, List.nil_append]
    rw [stringUnits?, hn, hall]
    · rfl
    · rintro _ _ _ _ _ rfl
      have hnone : escaped? 'u' = none := by decide
      exact absurd (hnone.symm.trans hn) (by simp)
  | case5 => simp at h
  | case6 c t hquote _ hslash hc ih =>
    simp only [Option.bind_eq_bind, Option.bind_eq_some_iff] at h
    obtain ⟨⟨units', rest'⟩, hread, hout⟩ := h
    obtain ⟨rfl, rfl⟩ := Prod.mk.inj (Option.some.inj hout)
    obtain ⟨u, rfl, hfirm, hall⟩ := ih hread
    -- a slash would escape what follows it, and something does
    have hne : c ≠ '\\' := by
      rintro rfl
      obtain ⟨v, d, rfl, -⟩ := hfirm
      cases v with
      | nil => exact hslash _ _ rfl rfl
      | cons => exact hslash _ _ rfl rfl
    refine ⟨c :: u, rfl, hfirm.cons c, fun e => ?_⟩
    rw [List.cons_append, stringUnits?, if_neg hc, hall]
    · rfl
    · exact hquote
    · exact fun _ _ _ _ _ h => absurd h hne
    · exact fun _ _ h => absurd h hne

theorem exists_of_readString? {t rest : Text} {s : Option Text}
    (h : readString? t = some (s, rest)) :
    ∃ u, t = u ++ rest ∧ IsFirm u ∧ ∀ e, readString? (u ++ e) = some (s, e) := by
  obtain ⟨⟨units, rest'⟩, hread, hout⟩ := Option.map_eq_some_iff.1 h
  obtain ⟨rfl, rfl⟩ := Prod.mk.inj hout
  obtain ⟨u, rfl, hfirm, hall⟩ := exists_of_stringUnits? hread
  exact ⟨u, rfl, hfirm, fun e => by rw [readString?, hall]; rfl⟩

/-! ## Numbers -/

theorem of_readDigits? {t ds rest : Text} (h : readDigits? t = some (ds, rest)) :
    IsDigits ds ∧ t = ds ++ rest := by
  rw [readDigits?] at h
  split at h
  · contradiction
  · next hne =>
    obtain ⟨rfl, rfl⟩ := Prod.mk.inj (Option.some.inj h)
    refine ⟨⟨by simpa using hne, fun c hc => List.mem_takeWhile_imp hc⟩, ?_⟩
    rw [List.takeWhile_append_dropWhile]

theorem of_readWhole? {t whole rest : Text} (h : readWhole? t = some (whole, rest)) :
    IsWhole whole ∧ t = whole ++ rest := by
  simp only [readWhole?, Option.bind_eq_bind, Option.bind_eq_some_iff] at h
  obtain ⟨⟨ds, rest'⟩, hread, hout⟩ := h
  obtain ⟨hds, ht⟩ := of_readDigits? hread
  dsimp only at hout
  split at hout
  · contradiction
  · next hzero =>
    obtain ⟨rfl, rfl⟩ := Prod.mk.inj (Option.some.inj hout)
    refine ⟨⟨hds, fun hhead => ?_⟩, ht⟩
    have hpos := List.length_pos_of_ne_nil hds.1
    have hlen : ¬ 1 < ds.length := fun hlt => hzero ⟨hhead, hlt⟩
    omega

theorem of_readPlaces? {t places rest : Text} (h : readPlaces? t = some (places, rest)) :
    IsPlaces places ∧ t = places ++ rest := by
  rw [readPlaces?.eq_def] at h
  split at h
  · obtain ⟨⟨ds, rest'⟩, hread, hout⟩ := Option.map_eq_some_iff.1 h
    obtain ⟨rfl, rfl⟩ := Prod.mk.inj hout
    obtain ⟨hds, rfl⟩ := of_readDigits? hread
    exact ⟨.inr ⟨ds, hds, rfl⟩, rfl⟩
  · obtain ⟨rfl, rfl⟩ := Prod.mk.inj (Option.some.inj h)
    exact ⟨.inl rfl, rfl⟩

theorem of_readSign (t : Text) :
    ((readSign t).1 = [] ∨ (readSign t).1 = ['+'] ∨ (readSign t).1 = ['-']) ∧
      t = (readSign t).1 ++ (readSign t).2 := by
  rw [readSign.eq_def]
  split <;> simp

theorem of_readExponent? {t exponent rest : Text} (h : readExponent? t = some (exponent, rest)) :
    IsExponent exponent ∧ t = exponent ++ rest := by
  cases t with
  | nil =>
    obtain ⟨rfl, rfl⟩ := Prod.mk.inj (Option.some.inj h)
    exact ⟨.inl rfl, rfl⟩
  | cons c r =>
    rw [readExponent?] at h
    split at h
    · next hc =>
      obtain ⟨hsign, hr⟩ := of_readSign r
      generalize readSign r = p at h hsign hr
      obtain ⟨sign, r'⟩ := p
      obtain ⟨⟨ds, rest'⟩, hread, hout⟩ := Option.map_eq_some_iff.1 h
      obtain ⟨rfl, rfl⟩ := Prod.mk.inj hout
      obtain ⟨hds, hrest⟩ := of_readDigits? hread
      refine ⟨.inr ⟨c, _, ds, hc, hsign, hds, rfl⟩, ?_⟩
      simp [hr, hrest]
    · obtain ⟨rfl, rfl⟩ := Prod.mk.inj (Option.some.inj h)
      exact ⟨.inl rfl, rfl⟩

/-- What is read as a number is one. -/
theorem isNumber_of_readNumber? {t n rest : Text} (h : readNumber? t = some (n, rest)) :
    IsNumber n ∧ t = n ++ rest := by
  rw [readNumber?.eq_def] at h
  split at h
  next sign r hsplit =>
  have hsign : (sign = [] ∨ sign = ['-']) ∧ t = sign ++ r := by
    split at hsplit <;> cases hsplit <;> simp
  obtain ⟨hsign, rfl⟩ := hsign
  simp only [Option.bind_eq_bind, Option.bind_eq_some_iff] at h
  obtain ⟨⟨whole, r₁⟩, hread₁, ⟨places, r₂⟩, hread₂, ⟨exponent, r₃⟩, hread₃, hout⟩ := h
  obtain ⟨rfl, rfl⟩ := Prod.mk.inj (Option.some.inj hout)
  obtain ⟨hwhole, rfl⟩ := of_readWhole? hread₁
  obtain ⟨hplaces, rfl⟩ := of_readPlaces? hread₂
  obtain ⟨hexponent, rfl⟩ := of_readExponent? hread₃
  exact ⟨.parts hsign hwhole hplaces hexponent, by simp⟩

theorem IsDigits.isFirm {ds : Text} (h : IsDigits ds) : IsFirm ds := by
  rcases List.eq_nil_or_concat' ds with rfl | ⟨v, c, rfl⟩
  · exact absurd rfl h.1
  · refine ⟨v, c, rfl, ?_⟩
    rw [← Bool.not_eq_true]
    intro hspace
    have hdigit : c.isDigit = false := isDigit_of_isEnd (by simp [isEnd, hspace])
    rw [h.2 c (by simp)] at hdigit
    contradiction

/-- A number ends with a digit. -/
theorem IsNumber.isFirm {n : Text} (h : IsNumber n) : IsFirm n := by
  obtain ⟨-, hwhole, hplaces, hexponent⟩ := h
  rcases hexponent with rfl | ⟨e, s, ds, -, -, hds, rfl⟩
  · rw [List.append_nil]
    rcases hplaces with rfl | ⟨ds, hds, rfl⟩
    · rw [List.append_nil]
      exact hwhole.1.isFirm.append _
    · exact (hds.isFirm.cons '.').append _
  · exact ((hds.isFirm.append s).cons e).append _

/-! ## Values -/

theorem Reads.spaces {p : Part} {b t : Text} (hb : IsSpaces b) (h : Reads t p) : Reads (b ++ t) p := by
  induction b with
  | nil => exact h
  | cons c b ih =>
    obtain ⟨hc, hb⟩ := List.forall_mem_cons.1 hb
    exact (ih hb).blank hc

/-- A front part of `t`, up to `rest`, is read as the part `p`, whatever follows it. -/
def Consumed (t rest : Text) (p : Part) : Prop := ∃ u, t = u ++ rest ∧ IsFirm u ∧ Reads u p

theorem exists_skipSpace (t : Text) : ∃ b, IsSpaces b ∧ t = b ++ skipSpace t :=
  ⟨t.takeWhile isSpace, fun _ hc => List.mem_takeWhile_imp hc,
    (List.takeWhile_append_dropWhile).symm⟩

theorem exists_of_skipSpace {t s : Text} (h : skipSpace t = s) : ∃ b, IsSpaces b ∧ t = b ++ s :=
  h ▸ exists_skipSpace t

theorem Consumed.of_skipSpace {t rest : Text} {p : Part} (h : Consumed (skipSpace t) rest p) :
    Consumed t rest p := by
  obtain ⟨u, hu, hfirm, hreads⟩ := h
  obtain ⟨b, hb, ht⟩ := exists_of_skipSpace hu
  exact ⟨b ++ u, by rw [List.append_assoc, ← ht], hfirm.append b, hreads.spaces hb⟩

section
variable {m : Nat} {t rest : Text}

/-- One step for values, given that items and fields are consumed. -/
theorem consumed_value {j : Json}
    (hitems : ∀ {t rest js}, readItems? m t = some (js, rest) → Consumed t rest (.items js))
    (hfields : ∀ {t rest fs}, readFields? m t = some (fs, rest) → Consumed t rest (.fields fs))
    (h : readValue? (m + 1) t = some (j, rest)) : Consumed t rest (.value j) := by
  refine Consumed.of_skipSpace ?_
  rw [readValue?] at h
  split at h
  · contradiction
  · next t' heq =>
    obtain ⟨⟨s, rest'⟩, hread, hout⟩ := Option.map_eq_some_iff.1 h
    obtain ⟨rfl, rfl⟩ := Prod.mk.inj hout
    obtain ⟨u, rfl, hfirm, hall⟩ := exists_of_readString? hread
    exact ⟨'"' :: u, heq, hfirm.cons '"', reads_string hall⟩
  · next t' heq =>
    rw [heq]
    split at h
    · next rest' hclose =>
      obtain ⟨rfl, rfl⟩ := Prod.mk.inj (Option.some.inj h)
      obtain ⟨b, hb, rfl⟩ := exists_of_skipSpace hclose
      exact ⟨'[' :: (b ++ [']']), by simp, ((isFirm_singleton (by decide)).append b).cons '[',
        reads_emptyArray hb⟩
    · obtain ⟨⟨js, rest'⟩, hread, hout⟩ := Option.map_eq_some_iff.1 h
      obtain ⟨rfl, rfl⟩ := Prod.mk.inj hout
      obtain ⟨u, rfl, hfirm, hreads⟩ := (hitems hread).of_skipSpace
      exact ⟨'[' :: u, rfl, hfirm.cons '[', hreads.array⟩
  · next t' heq =>
    rw [heq]
    split at h
    · next rest' hclose =>
      obtain ⟨rfl, rfl⟩ := Prod.mk.inj (Option.some.inj h)
      obtain ⟨b, hb, rfl⟩ := exists_of_skipSpace hclose
      exact ⟨'{' :: (b ++ ['}']), by simp, ((isFirm_singleton (by decide)).append b).cons '{',
        reads_emptyObject hb⟩
    · obtain ⟨⟨fs, rest'⟩, hread, hout⟩ := Option.map_eq_some_iff.1 h
      obtain ⟨rfl, rfl⟩ := Prod.mk.inj hout
      obtain ⟨u, rfl, hfirm, hreads⟩ := (hfields hread).of_skipSpace
      exact ⟨'{' :: u, rfl, hfirm.cons '{', hreads.object⟩
  · next heq =>
    obtain ⟨rfl, rfl⟩ := Prod.mk.inj (Option.some.inj h)
    exact ⟨_, heq, ⟨['n', 'u', 'l'], 'l', rfl, by decide⟩, reads_null⟩
  · next heq =>
    obtain ⟨rfl, rfl⟩ := Prod.mk.inj (Option.some.inj h)
    exact ⟨_, heq, ⟨['t', 'r', 'u'], 'e', rfl, by decide⟩, reads_bool true⟩
  · next heq =>
    obtain ⟨rfl, rfl⟩ := Prod.mk.inj (Option.some.inj h)
    exact ⟨_, heq, ⟨['f', 'a', 'l', 's'], 'e', rfl, by decide⟩, reads_bool false⟩
  · obtain ⟨⟨n, rest'⟩, hread, hout⟩ := Option.map_eq_some_iff.1 h
    obtain ⟨rfl, rfl⟩ := Prod.mk.inj hout
    obtain ⟨hn, heq⟩ := isNumber_of_readNumber? hread
    exact ⟨n, heq, hn.isFirm, hn.reads⟩

theorem consumed_items {js : List Json}
    (hvalue : ∀ {t rest j}, readValue? m t = some (j, rest) → Consumed t rest (.value j))
    (hitems : ∀ {t rest js}, readItems? m t = some (js, rest) → Consumed t rest (.items js))
    (h : readItems? (m + 1) t = some (js, rest)) : Consumed t rest (.items js) := by
  simp only [readItems?, Option.bind_eq_bind, Option.bind_eq_some_iff] at h
  obtain ⟨⟨j, t'⟩, hread, h⟩ := h
  obtain ⟨u, rfl, -, hj⟩ := hvalue hread
  dsimp only at h
  split at h
  · next t'' hcomma =>
    obtain ⟨⟨js', rest'⟩, hread', hout⟩ := Option.bind_eq_some_iff.1 h
    obtain ⟨rfl, rfl⟩ := Prod.mk.inj (Option.some.inj hout)
    obtain ⟨v, rfl, hfirm, hjs⟩ := hitems hread'
    obtain ⟨b, hb, rfl⟩ := exists_of_skipSpace hcomma
    exact ⟨u ++ (b ++ ',' :: v), by simp, ((hfirm.cons ',').append b).append u,
      hj.items (hjs.nextItem.spaces hb)⟩
  · next rest' hclose =>
    obtain ⟨rfl, rfl⟩ := Prod.mk.inj (Option.some.inj h)
    obtain ⟨b, hb, rfl⟩ := exists_of_skipSpace hclose
    exact ⟨u ++ (b ++ [']']), by simp, ((isFirm_singleton (by decide)).append b).append u,
      hj.items (reads_lastItem.spaces hb)⟩
  · contradiction

theorem consumed_fields {fs : List (Option Text × Json)}
    (hvalue : ∀ {t rest j}, readValue? m t = some (j, rest) → Consumed t rest (.value j))
    (hfields : ∀ {t rest fs}, readFields? m t = some (fs, rest) → Consumed t rest (.fields fs))
    (h : readFields? (m + 1) t = some (fs, rest)) : Consumed t rest (.fields fs) := by
  refine Consumed.of_skipSpace ?_
  rw [readFields?] at h
  split at h
  · next t' heq =>
    rw [heq]
    obtain ⟨⟨key, t₁⟩, hread₁, h₁⟩ := Option.bind_eq_some_iff.1 h
    obtain ⟨k, rfl, -, hkey⟩ := exists_of_readString? hread₁
    dsimp only at h₁
    split at h₁
    · next t₂ hcolon =>
      obtain ⟨b, hb, rfl⟩ := exists_of_skipSpace hcolon
      obtain ⟨⟨j, t₃⟩, hread₂, h₂⟩ := Option.bind_eq_some_iff.1 h₁
      obtain ⟨u, rfl, -, hj⟩ := hvalue hread₂
      dsimp only at h₂
      split at h₂
      · next t₄ hcomma =>
        obtain ⟨⟨fs', rest'⟩, hread₃, hout⟩ := Option.bind_eq_some_iff.1 h₂
        obtain ⟨rfl, rfl⟩ := Prod.mk.inj (Option.some.inj hout)
        obtain ⟨v, rfl, hfirm, hfs⟩ := hfields hread₃
        obtain ⟨b', hb', rfl⟩ := exists_of_skipSpace hcomma
        refine ⟨'"' :: (k ++ (b ++ ':' :: (u ++ (b' ++ ',' :: v)))), by simp, ?_,
          hj.fields hkey hb (hfs.nextField.spaces hb')⟩
        exact ((((((hfirm.cons ',').append b').append u).cons ':').append b).append k).cons '"'
      · next rest' hclose =>
        obtain ⟨rfl, rfl⟩ := Prod.mk.inj (Option.some.inj h₂)
        obtain ⟨b', hb', rfl⟩ := exists_of_skipSpace hclose
        refine ⟨'"' :: (k ++ (b ++ ':' :: (u ++ (b' ++ ['}'])))), by simp, ?_,
          hj.fields hkey hb (reads_lastField.spaces hb')⟩
        exact ((((((isFirm_singleton (by decide)).append b').append u).cons ':').append b).append
          k).cons '"'
      · contradiction
    · contradiction
  · contradiction

end

/-- **What the reader takes does not depend on what follows it.** -/
theorem consumed_of_read (m : Nat) :
    (∀ {t rest j}, readValue? m t = some (j, rest) → Consumed t rest (.value j)) ∧
    (∀ {t rest js}, readItems? m t = some (js, rest) → Consumed t rest (.items js)) ∧
    ∀ {t rest fs}, readFields? m t = some (fs, rest) → Consumed t rest (.fields fs) := by
  induction m with
  | zero =>
    refine ⟨?_, ?_, ?_⟩
    · intro t rest j h
      simp [readValue?] at h
    · intro t rest js h
      simp [readItems?] at h
    · intro t rest fs h
      simp [readFields?] at h
  | succ m ih =>
    obtain ⟨hvalue, hitems, hfields⟩ := ih
    exact ⟨consumed_value hitems hfields, consumed_items hvalue hitems,
      consumed_fields hvalue hfields⟩

/-! ## Whole texts -/

theorem isSpaces_of_skipSpace {t : Text} (h : skipSpace t = []) : IsSpaces t :=
  List.dropWhile_eq_nil_iff.1 h

/-- A text is read as a value if it starts with one and goes on with blanks. -/
theorem parse?_eq_some_iff {t : Text} {j : Json} :
    parse? t = some j ↔ ∃ u b, t = u ++ b ∧ IsFirm u ∧ Reads u (.value j) ∧ IsSpaces b := by
  constructor
  · intro h
    rw [parse?] at h
    split at h
    · next j' rest hread =>
      split at h
      · next hrest =>
        obtain rfl := Option.some.inj h
        obtain ⟨u, ht, hfirm, hreads⟩ := (consumed_of_read _).1 hread
        exact ⟨u, rest, ht, hfirm, hreads, isSpaces_of_skipSpace (List.isEmpty_iff.1 hrest)⟩
      · contradiction
    · contradiction
  · rintro ⟨u, b, rfl, -, hreads, hb⟩
    exact parse?_of_reads hreads hb

/-- **Blanks at the end of a text do not matter.** -/
theorem parse?_append_spaces {b : Text} (hb : IsSpaces b) (t : Text) : parse? (t ++ b) = parse? t := by
  refine Option.ext fun j => ?_
  rw [parse?_eq_some_iff, parse?_eq_some_iff]
  constructor
  · rintro ⟨u, b', ht, hfirm, hreads, hb'⟩
    rcases List.append_eq_append_iff.1 ht with ⟨v, rfl, rfl⟩ | ⟨v, rfl, rfl⟩
    · -- a value does not end within the blanks
      rcases List.eq_nil_or_concat' v with rfl | ⟨v, c, rfl⟩
      · exact ⟨t ++ [], [], by simp, hfirm, hreads, isSpaces_nil⟩
      · obtain ⟨x, d, hx, hd⟩ := hfirm
        rw [← List.append_assoc] at hx
        obtain ⟨-, hc⟩ := List.append_inj' hx rfl
        have hspace : isSpace c = true := hb c (by simp)
        rw [(List.cons.inj hc).1, hd] at hspace
        contradiction
    · exact ⟨u, v, rfl, hfirm, hreads, (List.forall_mem_append.1 hb').1⟩
  · rintro ⟨u, b', rfl, hfirm, hreads, hb'⟩
    refine ⟨u, b' ++ b, by simp, hfirm, hreads, ?_⟩
    exact List.forall_mem_append.2 ⟨hb', hb⟩

end Retouch.Json
