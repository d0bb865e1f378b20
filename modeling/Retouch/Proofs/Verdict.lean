/-
  The verdict on two runs, in terms of the bytes that they wrote.

  `Verdict.Judges v same exit` says that `v` is the verdict that follows from whether the outputs are
  the same and the exit codes are.  The verdict judges by the texts that the outputs are shown as, not
  by their bytes (`judges_alike`): two different outputs may be found equivalent.

  * `judges_bytes_iff`: the verdict is that of the bytes exactly if outputs that are alike are equal;
    so it is wherever both outputs are well-formed, or one of them is and has no U+FFFD;
  * `not_judges_bytes_of_stray_bytes`: two outputs on which it is not.
-/
import Retouch.Proofs.Decoding
import Retouch.Verify.Trial

namespace Retouch

open Text (Alike)

/-! ## Octets -/

theorem Octets.toBytes_ofBytes (bytes : List UInt8) : toBytes (ofBytes bytes) = bytes := by
  rw [toBytes, ofBytes, List.map_map]
  refine List.map_id'' (fun b => ?_) bytes
  have hb : b.toNat < 256 := b.toNat_lt
  have hchar : (Char.ofNat b.toNat).toNat = b.toNat := Text.toNat_ofNat (.inl (by omega))
  simp [hchar]

/-! ## Verdicts -/

namespace Verdict

/-- `v` is the verdict that follows from whether the outputs are the same, and the exit codes. -/
structure Judges (v : Verdict) (sameOutput sameExit : Prop) : Prop where
  equivalent_iff : v = .equivalent ↔ sameOutput ∧ sameExit
  diverged : v ≠ .equivalent → ∃ stdoutDiffers exitDiffers : Bool,
    v = .diverged stdoutDiffers exitDiffers ∧ (stdoutDiffers = true ↔ ¬ sameOutput) ∧
      (exitDiffers = true ↔ ¬ sameExit)

/-- A verdict tells whether the outputs were the same. -/
theorem Judges.congr {v : Verdict} {p q e : Prop} (hp : v.Judges p e) (hq : v.Judges q e) :
    p ↔ q := by
  by_cases hv : v = .equivalent
  · exact ⟨fun _ => (hq.equivalent_iff.1 hv).1, fun _ => (hp.equivalent_iff.1 hv).1⟩
  · obtain ⟨ds, de, rfl, hds, -⟩ := hp.diverged hv
    obtain ⟨ds', de', heq, hds', -⟩ := hq.diverged hv
    obtain ⟨rfl, -⟩ : ds = ds' ∧ de = de' := by simpa using heq
    exact not_iff_not.1 (hds.symm.trans hds')

end Verdict

/-! ## Runs that ended -/

/-- A run that wrote these bytes, to its two outputs, and ended with this code. -/
def Finished.wrote (out err : List UInt8) (exitCode : Option Int) (elapsed : Nat) : Finished :=
  ⟨.ofBytes out, .ofBytes err, exitCode, elapsed⟩

/-- The outcomes of two runs that ended, given what they wrote. -/
def Verification.ofFinished (limit : Nat) (f g : Finished) : Verification :=
  ⟨(Bounded.finished f).outcome limit, (Bounded.finished g).outcome limit⟩

theorem Finished.execution?_outcome (f : Finished) : f.outcome.execution? = some f.execution := by
  rw [outcome]
  split <;> rfl

namespace Verification

/-- The verdict judges by the texts that the outputs are shown as. -/
theorem judges_toText (limit : Nat) (f g : Finished) :
    (ofFinished limit f g).verdict.Judges (f.stdout.toText = g.stdout.toText)
      (f.exitCode = g.exitCode) := by
  have hv : (ofFinished limit f g).verdict =
      if f.stdout.toText ≠ g.stdout.toText ∨ f.exitCode ≠ g.exitCode then
        .diverged (f.stdout.toText ≠ g.stdout.toText) (f.exitCode ≠ g.exitCode)
      else .equivalent := by
    simp only [verdict, ofFinished, Bounded.outcome, Finished.execution?_outcome]
    rfl
  rw [hv]
  split
  · next h =>
    refine ⟨⟨fun heq => absurd heq (by simp), fun hs => ?_⟩, fun _ => ⟨_, _, rfl, ?_, ?_⟩⟩
    · exact absurd hs (not_and_or.2 h)
    · exact decide_eq_true_iff
    · exact decide_eq_true_iff
  · next h =>
    rw [← not_and_or, not_not] at h
    exact ⟨⟨fun _ => h, fun _ => rfl⟩, fun hne => absurd rfl hne⟩

/-- That is, by whether the outputs are alike. -/
theorem judges_alike (limit : Nat) (o₁ o₂ err₁ err₂ : List UInt8) (e₁ e₂ : Option Int)
    (s₁ s₂ : Nat) :
    (ofFinished limit (.wrote o₁ err₁ e₁ s₁) (.wrote o₂ err₂ e₂ s₂)).verdict.Judges (Alike o₁ o₂)
      (e₁ = e₂) := by
  have h := judges_toText limit (.wrote o₁ err₁ e₁ s₁) (.wrote o₂ err₂ e₂ s₂)
  simp only [Finished.wrote, Octets.toText, Octets.toBytes_ofBytes] at h
  rwa [Text.ofBytesLossy_eq_iff] at h

end Verification

/-- **The verdict on two runs** that wrote the bytes `o₁` and `o₂` and ended with `e₁` and `e₂`: it
    tells apart outputs that are not alike, and it is the verdict of the bytes exactly if outputs that
    are alike are equal.  So it is if both are well-formed, or one is and has no U+FFFD. -/
theorem Verification.judges_bytes_iff (limit : Nat) (o₁ o₂ err₁ err₂ : List UInt8)
    (e₁ e₂ : Option Int) (s₁ s₂ : Nat) :
    ∃ v, (ofFinished limit (.wrote o₁ err₁ e₁ s₁) (.wrote o₂ err₂ e₂ s₂)).verdict = v ∧
      v.Judges (Alike o₁ o₂) (e₁ = e₂) ∧
      (v.Judges (o₁ = o₂) (e₁ = e₂) ↔ (Alike o₁ o₂ → o₁ = o₂)) ∧
      (∀ t u : Text, o₁ = t.toBytes → o₂ = u.toBytes → v.Judges (o₁ = o₂) (e₁ = e₂)) ∧
      (∀ t : Text, Text.replacement ∉ t → o₁ = t.toBytes ∨ o₂ = t.toBytes →
        v.Judges (o₁ = o₂) (e₁ = e₂)) := by
  have halike := judges_alike limit o₁ o₂ err₁ err₂ e₁ e₂ s₁ s₂
  generalize (ofFinished limit (.wrote o₁ err₁ e₁ s₁) (.wrote o₂ err₂ e₂ s₂)).verdict = v at halike ⊢
  have hiff : v.Judges (o₁ = o₂) (e₁ = e₂) ↔ (Alike o₁ o₂ → o₁ = o₂) := by
    constructor
    · exact fun hbytes => (halike.congr hbytes).1
    · intro h
      have hsame : Alike o₁ o₂ ↔ o₁ = o₂ := ⟨h, fun heq => heq ▸ .refl o₁⟩
      rwa [hsame] at halike
  refine ⟨v, rfl, halike, hiff, ?_, ?_⟩
  · rintro t u rfl rfl
    exact hiff.2 fun h => h.toBytes_inj
  · rintro t ht (rfl | rfl)
    · exact hiff.2 fun h => (h.eq_toBytes ht).symm
    · exact hiff.2 fun h => h.symm.eq_toBytes ht

/-- Two runs that end well and write different bytes, neither of which opens a character: they are
    found equivalent. -/
theorem Verification.not_judges_bytes_of_stray_bytes :
    ¬ (ofFinished 10000 (.wrote [0x61, 0xFF, 0x62] [] (some 0) 0)
      (.wrote [0x61, 0xFE, 0x62] [] (some 0) 0)).verdict.Judges
        ([0x61, 0xFF, 0x62] = ([0x61, 0xFE, 0x62] : List UInt8)) ((some 0 : Option Int) = some 0) := by
  intro h
  have htext : Text.ofBytesLossy [0x61, 0xFF, 0x62] = Text.ofBytesLossy [0x61, 0xFE, 0x62] := by
    simp [Text.ofBytesLossy, Text.decode, Text.following?, Text.followers, Text.assemble]
  have halike := judges_alike 10000 [0x61, 0xFF, 0x62] [0x61, 0xFE, 0x62] [] [] (some 0) (some 0) 0 0
  exact absurd ((halike.congr h).1 (Text.ofBytesLossy_eq_iff.1 htext)) (by decide)

end Retouch
