/-
  Replacement of whole words.

  A word that starts and ends with a word character is found where it stands between other characters
  (`read?_wholeWord`).  If it overlaps with no occurrence of what is written for it (`KeepsOff`), then
  it is gone after one replacement, and a replacement of another word does not bring it back.

  * `isolated_replaceWord`: words that keep off a replacement stand apart from it;
  * `ordersNothing_unorderContainers`: no ordered container is left.
-/
import Mathlib.Data.List.Infix
import Retouch.Pass.Containers
import Retouch.Proofs.Junctions

namespace Retouch.Pass

open Text

/-! ## Whole words -/

/-- A text that starts and ends with a word character. -/
structure IsWordy (w : Text) : Prop where
  head_eq : w.head?.any isWord = true
  getLast_eq : w.getLast?.any isWord = true

instance (w : Text) : Decidable (IsWordy w) :=
  decidable_of_iff (w.head?.any isWord = true ∧ w.getLast?.any isWord = true)
    ⟨fun h => ⟨h.1, h.2⟩, fun h => ⟨h.1, h.2⟩⟩

namespace IsWordy

variable {w : Text}

theorem ne_nil (h : IsWordy w) : w ≠ [] := by
  rintro rfl
  exact absurd h.head_eq (by decide)

theorem head?_append (h : IsWordy w) (t : Text) : (w ++ t).head?.any isWord = true := by
  obtain ⟨c, u, rfl⟩ := List.exists_cons_of_ne_nil h.ne_nil
  exact h.head_eq

theorem getLast?_or (h : IsWordy w) (before : Option Char) :
    (w.getLast?.or before).any isWord = true := by
  have hlast := h.getLast_eq
  rw [List.getLast?_eq_some_getLast h.ne_nil] at hlast ⊢
  exact hlast

end IsWordy

/-- A whole word is found where it stands between characters that are no word characters. -/
theorem read?_wholeWord {s : String} (hs : IsWordy s.toList) {before : Option Char} {t : Text}
    {m : Match} :
    (wholeWord s).read? before t = some m ↔
      before.any isWord = false ∧ m.rest.head?.any isWord = false ∧ t = s.toList ++ m.rest ∧
        m.pieces = [[], s.toList, []] := by
  constructor
  · intro h
    rw [wholeWord, Pattern.read?_edge] at h
    split at h
    · exact absurd h (by simp)
    · next hbefore =>
      obtain ⟨m', hword, rfl⟩ := Option.map_eq_some_iff.1 h
      change Pattern.read? ([.word s.toList] ++ [.edge]) before t = some m' at hword
      rw [Pattern.read?_append, Option.bind_eq_some_iff] at hword
      obtain ⟨m₁, h₁, hedge⟩ := hword
      obtain ⟨hpieces, rfl⟩ := Pattern.read?_word.1 h₁
      obtain ⟨m₂, h₂, rfl⟩ := Option.map_eq_some_iff.1 hedge
      have htext : m₁.text = s.toList := by simp [Match.text, hpieces]
      rw [Pattern.read?_edge, htext, hs.getLast?_or] at h₂
      split at h₂
      · exact absurd h₂ (by simp)
      · next hafter =>
        obtain ⟨m₃, h₃, rfl⟩ := Option.map_eq_some_iff.1 h₂
        obtain rfl := Option.some.inj h₃
        rw [hs.head?_append] at hbefore
        refine ⟨by simpa using hbefore, by simpa using Ne.symm hafter, rfl, ?_⟩
        simp [hpieces]
  · obtain ⟨pieces, rest⟩ := m
    rintro ⟨hbefore, hrest, rfl, rfl⟩
    have hstart : Piece.edge.take? before (s.toList ++ rest) = some ([], s.toList ++ rest) := by
      rw [Piece.take?, hbefore, hs.head?_append, if_pos (by decide)]
    have hstop : Piece.edge.take? (s.toList.getLast?.or before) rest = some ([], rest) := by
      rw [Piece.take?, hs.getLast?_or, hrest, if_pos (by decide)]
    refine Pattern.read?_cons hstart ?_
    refine Pattern.read?_cons (Piece.take?_word s.toList rest) ?_
    exact Pattern.read?_cons hstop rfl

theorem isWordwise_wholeWord {s : String} (hs : IsWordy s.toList) :
    Matcher.IsWordwise (wholeWord s).read? where
  splits := Pattern.splits _
  text_ne_nil h := by
    obtain ⟨-, -, -, hpieces⟩ := (read?_wholeWord hs).1 h
    simpa [Match.text, hpieces] using hs.ne_nil
  congr_before t h := Pattern.read?_congr_before _ h t
  isSome_append rest h hrest := by
    obtain ⟨hbefore, hend, -, hpieces⟩ := (read?_wholeWord hs).1 h
    have hagain := (read?_wholeWord hs (m := ⟨[[], s.toList, []], rest⟩)).2
      ⟨hbefore, hrest.trans hend, rfl, rfl⟩
    simp [Match.text, hpieces, hagain]

/-- Neither of two texts is the start of the other. -/
def Clash (u v : Text) : Prop := ¬ u <+: v ∧ ¬ v <+: u

instance (u v : Text) : Decidable (Clash u v) := inferInstanceAs (Decidable (_ ∧ _))

theorem Clash.append_ne {u v : Text} (h : Clash u v) (x y : Text) : u ++ x ≠ v ++ y := by
  intro heq
  have hu : u <+: v ++ y := heq ▸ List.prefix_append u x
  rcases List.prefix_or_prefix_of_prefix hu (List.prefix_append v y) with hpre | hpre
  · exact h.1 hpre
  · exact h.2 hpre

/-- The word `s` overlaps with no occurrence of `r`. -/
structure KeepsOff (s r : Text) : Prop where
  front : ∀ y ∈ s.tail.tails, y ≠ [] → Clash r y
  inner : ∀ y ∈ r.tails, y ≠ [] → Clash y s

instance (s r : Text) : Decidable (KeepsOff s r) :=
  decidable_of_iff ((∀ y ∈ s.tail.tails, y ≠ [] → Clash r y) ∧ ∀ y ∈ r.tails, y ≠ [] → Clash y s)
    ⟨fun h => ⟨h.1, h.2⟩, fun h => ⟨h.1, h.2⟩⟩

theorem isolated_replaceWord {s r s' : String} (hs : IsWordy s.toList) (hr : IsWordy r.toList)
    (hs' : IsWordy s'.toList) (hoff : KeepsOff s'.toList r.toList) :
    Matcher.Isolated (wholeWord s).read? (fun _ => r.toList) (wholeWord s').read? fun _ => False where
  ne_nil _ := hr.ne_nil
  head_eq h := by
    obtain ⟨-, -, -, hpieces⟩ := (read?_wholeWord hs).1 h
    simp [Match.text, hpieces, hs.head_eq, hr.head_eq]
  getLast_eq h := by
    obtain ⟨-, -, -, hpieces⟩ := (read?_wholeWord hs).1 h
    simp [Match.text, hpieces, hs.getLast_eq, hr.getLast_eq]
  front {before t s₁ m m' x y u v} h hxy hx hy _ := by
    obtain ⟨-, -, -, hpieces⟩ := (read?_wholeWord hs').1 h
    have htext : s'.toList = x ++ y := by simpa [Match.text, hpieces] using hxy
    obtain ⟨c, x, rfl⟩ := List.exists_cons_of_ne_nil hx
    refine (hoff.front y ?_ hy).append_ne u v
    rw [List.mem_tails, htext]
    exact List.suffix_append x y
  inner {before t m m' x y u} _ hxy hy h := by
    obtain ⟨-, -, ht, -⟩ := (read?_wholeWord hs').1 h
    refine (hoff.inner y ?_ hy).append_ne u m.rest ht
    rw [List.mem_tails, hxy]
    exact List.suffix_append x y

/-! ## Containers -/

/-- No ordered container stands in the text. -/
structure OrdersNothing (t : Text) : Prop where
  map : Matcher.Lacks (wholeWord "std::map").read? t
  set : Matcher.Lacks (wholeWord "std::set").read? t

theorem isWordy_map : IsWordy "std::map".toList := by decide

theorem isWordy_set : IsWordy "std::set".toList := by decide

theorem isWordy_unordered_map : IsWordy "std::unordered_map".toList := by decide

theorem isWordy_unordered_set : IsWordy "std::unordered_set".toList := by decide

/-- **All ordered containers go.** -/
theorem ordersNothing_unorderContainers (t : Text) : OrdersNothing (unorderContainers t) where
  map := by
    have hmap := isWordwise_wholeWord isWordy_map
    have hgone := (isolated_replaceWord isWordy_map isWordy_unordered_map isWordy_map
      (by decide)).lacks_replaceAll hmap t
    exact hgone.replaceAll (isWordwise_wholeWord isWordy_set) hmap
      (isolated_replaceWord isWordy_set isWordy_unordered_set isWordy_map (by decide))
  set := (isolated_replaceWord isWordy_set isWordy_unordered_set isWordy_set
    (by decide)).lacks_replaceAll (isWordwise_wholeWord isWordy_set) _

theorem unorderContainers_eq_self {t : Text} (h : OrdersNothing t) : unorderContainers t = t := by
  have hmap : replaceWord "std::map" "std::unordered_map" t = t :=
    h.map.replaceAll_eq_self (isWordwise_wholeWord isWordy_map) _
  have hset : replaceWord "std::set" "std::unordered_set" t = t :=
    h.set.replaceAll_eq_self (isWordwise_wholeWord isWordy_set) _
  rw [unorderContainers, hmap, hset]

end Retouch.Pass
