/-
  Templates and the paths that are put into them.

  The arguments of a toolchain are expanded in two steps: the source is put in for its placeholder,
  and then the file to be built for the other one, wherever it stands by then.  To put in both at once
  is something else (`substitute`): the template is read into characters and placeholders (`slots`),
  and each placeholder is exchanged for its path.  The two agree unless the source brings in a
  placeholder, by itself or together with the text around it.

  * `expand_eq_substitute_iff`: when an argument is expanded by putting in both paths at once;
  * `IsClosed.expand_eq_substitute_iff`: for a path that cannot share a placeholder with the text
    around it, this holds of all templates if the path has none;
  * `arguments_eq_map_substitute_iff`: for the paths of a trial, it depends on the path of the scratch
    directory.
-/
import Mathlib.Data.List.Infix
import Retouch.Proofs.Decoding
import Retouch.Proofs.MarkedPlaces
import Retouch.Verify.Trial

namespace Retouch

/-! ## Templates -/

namespace Toolchain

open Text

theorem isBraced_sourcePlaceholder : IsBraced sourcePlaceholder :=
  ⟨"source\x7d".toList, rfl, by decide⟩

theorem isBraced_outputPlaceholder : IsBraced outputPlaceholder :=
  ⟨"output\x7d".toList, rfl, by decide⟩

/-- What a template has at a place: a character, or one of the placeholders. -/
inductive Slot where
  | char (c : Char)
  | source
  | output
deriving Repr, DecidableEq

/-- A template, read from left to right. -/
def slots (arg : Text) : List Slot :=
  match arg with
  | [] => []
  | c :: t =>
    if sourcePlaceholder <+: c :: t then .source :: slots ((c :: t).drop sourcePlaceholder.length)
    else if outputPlaceholder <+: c :: t then
      .output :: slots ((c :: t).drop outputPlaceholder.length)
    else .char c :: slots t
termination_by arg.length
decreasing_by
  · rw [List.length_drop]
    exact Nat.sub_lt (Nat.succ_pos _) (by decide)
  · rw [List.length_drop]
    exact Nat.sub_lt (Nat.succ_pos _) (by decide)
  · exact Nat.lt_succ_self _

/-- The text of a slot, with paths for the placeholders. -/
def Slot.text (source output : Text) : Slot → Text
  | .char c => [c]
  | .source => source
  | .output => output

/-- An argument with both paths put in at once. -/
def substitute (source output arg : Text) : Text := (slots arg).flatMap (Slot.text source output)

variable {source output arg t : Text} {c : Char}

/-- Of two words only one can stand at a place, unless one goes on as the other. -/
theorem not_prefix_append {w v : Text} (hwv : ¬ w <+: v) (hvw : ¬ v <+: w) (t : Text) :
    ¬ w <+: v ++ t := by
  intro h
  rcases List.prefix_or_prefix_of_prefix h (List.prefix_append v t) with h | h
  · exact hwv h
  · exact hvw h

theorem not_source_prefix_output (t : Text) : ¬ sourcePlaceholder <+: outputPlaceholder ++ t :=
  not_prefix_append (by decide) (by decide) t

theorem not_output_prefix_source (t : Text) : ¬ outputPlaceholder <+: sourcePlaceholder ++ t :=
  not_prefix_append (by decide) (by decide) t

theorem slots_of_source (h : sourcePlaceholder <+: t) :
    slots t = .source :: slots (t.drop sourcePlaceholder.length) := by
  cases t with
  | nil => exact absurd h (by decide)
  | cons c t => rw [slots, if_pos h]

theorem slots_of_output (hs : ¬ sourcePlaceholder <+: t) (ho : outputPlaceholder <+: t) :
    slots t = .output :: slots (t.drop outputPlaceholder.length) := by
  cases t with
  | nil => exact absurd ho (by decide)
  | cons c t => rw [slots, if_neg hs, if_pos ho]

theorem slots_source (t : Text) : slots (sourcePlaceholder ++ t) = .source :: slots t := by
  rw [slots_of_source (List.prefix_append _ _), List.drop_left]

theorem slots_output (t : Text) : slots (outputPlaceholder ++ t) = .output :: slots t := by
  rw [slots_of_output (not_source_prefix_output t) (List.prefix_append _ _), List.drop_left]

theorem slots_char (hs : ¬ sourcePlaceholder <+: c :: t) (ho : ¬ outputPlaceholder <+: c :: t) :
    slots (c :: t) = .char c :: slots t := by
  rw [slots, if_neg hs, if_neg ho]

/-- Induction along the reading of a template. -/
@[elab_as_elim]
theorem slotInduction {motive : Text → Prop} (nil : motive [])
    (source : ∀ t, motive t → motive (sourcePlaceholder ++ t))
    (output : ∀ t, motive t → motive (outputPlaceholder ++ t))
    (char : ∀ c t, ¬ sourcePlaceholder <+: c :: t → ¬ outputPlaceholder <+: c :: t → motive t →
      motive (c :: t)) (arg : Text) : motive arg := by
  fun_induction slots arg with
  | case1 => exact nil
  | case2 c t h ih =>
    have := source _ ih
    rwa [isPrefixOf_append_drop (List.isPrefixOf_iff_prefix.2 h)] at this
  | case3 c t _ h ih =>
    have := output _ ih
    rwa [isPrefixOf_append_drop (List.isPrefixOf_iff_prefix.2 h)] at this
  | case4 c t hs ho ih => exact char c t hs ho ih

/-! ## Expansion -/

/-- A slot once the source is put in, where the other placeholder is a mark. -/
def Slot.marks (source : Text) : Slot → List (Option Char)
  | .char c => [some c]
  | .source => source.map some
  | .output => [none]

/-- A template with the source put in, and a mark for the other placeholder. -/
def marks (source arg : Text) : List (Option Char) := (slots arg).flatMap (Slot.marks source)

theorem marks_source (source t : Text) :
    marks source (sourcePlaceholder ++ t) = source.map some ++ marks source t := by
  rw [marks, slots_source, List.flatMap_cons]
  rfl

theorem marks_output (source t : Text) :
    marks source (outputPlaceholder ++ t) = none :: marks source t := by
  rw [marks, slots_output, List.flatMap_cons]
  rfl

theorem marks_char (source : Text) (hs : ¬ sourcePlaceholder <+: c :: t)
    (ho : ¬ outputPlaceholder <+: c :: t) : marks source (c :: t) = some c :: marks source t := by
  rw [marks, slots_char hs ho, List.flatMap_cons]
  rfl

/-- The other placeholder stays as it is when the source is put in. -/
theorem replaceAll_output_append (source t : Text) :
    replaceAll sourcePlaceholder source (outputPlaceholder ++ t) =
      outputPlaceholder ++ replaceAll sourcePlaceholder source t := by
  obtain ⟨body, ho, hbody⟩ := isBraced_outputPlaceholder
  have hpre := not_source_prefix_output t
  rw [ho, List.cons_append] at hpre ⊢
  rw [replaceAll_cons hpre, isBraced_sourcePlaceholder.replaceAll_append_of_not_mem hbody,
    List.cons_append]

theorem places_source_append (t : Text) :
    places outputPlaceholder (sourcePlaceholder ++ t) = places outputPlaceholder t := by
  obtain ⟨body, hs, hbody⟩ := isBraced_sourcePlaceholder
  have hpre := not_output_prefix_source t
  rw [hs, List.cons_append] at hpre ⊢
  rw [places, if_neg hpre, isBraced_outputPlaceholder.places_append hbody, Nat.add_zero]

/-- What a template is once the source is put in. -/
theorem replaceAll_source (source arg : Text) :
    replaceAll sourcePlaceholder source arg = written outputPlaceholder (marks source arg) := by
  induction arg using slotInduction with
  | nil => rw [replaceAll_nil, marks, slots]; rfl
  | source t ih =>
    rw [replaceAll_append isBraced_sourcePlaceholder.ne_nil, marks_source, written_map_some_append,
      ih]
  | output t ih => rw [replaceAll_output_append, marks_output, written_mark, ih]
  | char c t hs ho ih => rw [replaceAll_cons hs, marks_char source hs ho, written_char, ih]

/-- The marks are the places of the placeholder in the template. -/
theorem count_marks (source arg : Text) :
    (marks source arg).count none = places outputPlaceholder arg := by
  have hsome : (source.map some).count none = 0 := by simp [List.count_eq_zero]
  induction arg using slotInduction with
  | nil => rw [marks, slots]; rfl
  | source t ih => rw [marks_source, List.count_append, hsome, Nat.zero_add, ih, places_source_append]
  | output t ih =>
    rw [marks_output, List.count_cons_self, isBraced_outputPlaceholder.places_self_append, ih]
  | char c t hs ho ih =>
    rw [marks_char source hs ho, List.count_cons_of_ne (by simp), places, if_neg ho, ih,
      Nat.add_zero]

theorem substitute_eq_written (source output arg : Text) :
    substitute source output arg = written output (marks source arg) := by
  rw [substitute, marks, written, List.flatMap_assoc]
  refine List.flatMap_congr fun slot _ => ?_
  cases slot with
  | char c => rfl
  | source =>
    have hsource := written_map_some_append output source []
    rw [List.append_nil, written, written, List.flatMap_nil, List.append_nil] at hsource
    exact hsource.symm
  | output => exact (List.append_nil output).symm

/-- **When the two steps of an expansion put both paths in at once.** -/
theorem expand_eq_substitute_iff (source output arg : Text) :
    expand source output arg = substitute source output arg ↔
      output = outputPlaceholder ∨
        places outputPlaceholder (replaceAll sourcePlaceholder source arg) =
          places outputPlaceholder arg := by
  rw [expand, substitute_eq_written, replaceAll_source, ← count_marks source arg]
  exact isBraced_outputPlaceholder.replaceAll_written_iff

/-! ## Paths -/

/-- No placeholder can start before a path and end in it, nor start in it and end behind it. -/
structure IsClosed (path : Text) : Prop where
  head : ∃ c rest, path = c :: rest ∧ c ∉ outputPlaceholder
  back : ∀ u, u ≠ [] → u <+: outputPlaceholder → ¬ u <:+ path

variable {path u v : Text}

/-- No place starts in a path that does not have one itself. -/
theorem IsClosed.places_append (h : IsClosed path) (hpath : ¬ outputPlaceholder <:+: path)
    (t : Text) : places outputPlaceholder (path ++ t) = places outputPlaceholder t := by
  suffices hsuf : ∀ u, u <:+ path →
      places outputPlaceholder (u ++ t) = places outputPlaceholder t from hsuf path List.suffix_rfl
  intro u hu
  induction u with
  | nil => rfl
  | cons c u ih =>
    have hpre : ¬ outputPlaceholder <+: c :: (u ++ t) := by
      intro hpre
      rcases List.prefix_or_prefix_of_prefix hpre (List.prefix_append (c :: u) t) with h' | h'
      · exact hpath (h'.isInfix.trans hu.isInfix)
      · exact h.back (c :: u) (List.cons_ne_nil _ _) h' hu
    rw [List.cons_append, places, if_neg hpre, ih ((List.suffix_cons c u).trans hu), Nat.add_zero]

/-- What follows a brace in the template does not go on in a path. -/
theorem IsClosed.prefix_of_prefix_replaceAll (h : IsClosed path) (hu : '{' ∉ u)
    (hsub : u ⊆ outputPlaceholder) (hpre : u <+: replaceAll sourcePlaceholder path arg) :
    u <+: arg := by
  rw [replaceAll_source] at hpre
  induction arg using slotInduction generalizing u with
  | nil => rwa [marks, slots] at hpre
  | source t ih =>
    obtain ⟨c, rest, rfl, hc⟩ := h.head
    cases u with
    | nil => exact List.nil_prefix
    | cons d u =>
      rw [marks_source, written_map_some_append, List.cons_append, List.cons_prefix_cons] at hpre
      exact absurd (hsub List.mem_cons_self) (hpre.1 ▸ hc)
  | output t ih =>
    cases u with
    | nil => exact List.nil_prefix
    | cons d u =>
      rw [marks_output, written_mark] at hpre
      obtain ⟨body, ho, -⟩ := isBraced_outputPlaceholder
      rw [ho, List.cons_append, List.cons_prefix_cons] at hpre
      exact absurd (hpre.1 ▸ List.mem_cons_self) hu
  | char c t hs ho ih =>
    cases u with
    | nil => exact List.nil_prefix
    | cons d u =>
      rw [marks_char path hs ho, written_char, List.cons_prefix_cons] at hpre
      rw [List.mem_cons, not_or] at hu
      rw [List.cons_subset] at hsub
      exact List.cons_prefix_cons.2 ⟨hpre.1, ih hu.2 hsub.2 hpre.2⟩

/-- If a path has no placeholder, putting it in brings in none. -/
theorem IsClosed.places_replaceAll (h : IsClosed path) (hpath : ¬ outputPlaceholder <:+: path)
    (arg : Text) :
    places outputPlaceholder (replaceAll sourcePlaceholder path arg) =
      places outputPlaceholder arg := by
  induction arg using slotInduction with
  | nil => rw [replaceAll_nil]
  | source t ih =>
    rw [replaceAll_append isBraced_sourcePlaceholder.ne_nil, h.places_append hpath, ih,
      places_source_append]
  | output t ih =>
    rw [replaceAll_output_append, isBraced_outputPlaceholder.places_self_append,
      isBraced_outputPlaceholder.places_self_append, ih]
  | char c t hs ho ih =>
    have hpre : ¬ outputPlaceholder <+: c :: replaceAll sourcePlaceholder path t := by
      obtain ⟨body, hout, hbody⟩ := isBraced_outputPlaceholder
      have hsub : body ⊆ outputPlaceholder := by
        rw [hout]
        exact List.subset_cons_self _ _
      rw [hout, List.cons_prefix_cons]
      rintro ⟨rfl, hpre⟩
      refine ho ?_
      rw [hout, List.cons_prefix_cons]
      exact ⟨rfl, h.prefix_of_prefix_replaceAll hbody hsub hpre⟩
    rw [replaceAll_cons hs, places, places, if_neg hpre, if_neg ho, ih]

/-- All templates are expanded as they should be if and only if the path of the source has no
    placeholder. -/
theorem IsClosed.expand_eq_substitute_iff (h : IsClosed path) (hout : output ≠ outputPlaceholder) :
    (∀ arg, expand path output arg = substitute path output arg) ↔
      ¬ outputPlaceholder <:+: path := by
  constructor
  · intro hall hinfix
    have hpath : replaceAll sourcePlaceholder path sourcePlaceholder = path := by
      have happ := replaceAll_append isBraced_sourcePlaceholder.ne_nil path []
      rwa [List.append_nil, replaceAll_nil, List.append_nil] at happ
    have hnone : places outputPlaceholder sourcePlaceholder = 0 := by decide
    rcases (Toolchain.expand_eq_substitute_iff path output sourcePlaceholder).1
      (hall sourcePlaceholder) with heq | hplaces
    · exact hout heq
    · rw [hpath, hnone] at hplaces
      exact absurd (places_pos_of_occurs isBraced_outputPlaceholder.ne_nil hinfix)
        (Nat.not_lt.2 (Nat.le_of_eq hplaces))
  · intro hinfix arg
    exact (Toolchain.expand_eq_substitute_iff path output arg).2
      (.inr (h.places_replaceAll hinfix arg))

end Toolchain

/-! ## Paths of a trial -/

namespace Text

variable {w u v : Text} {c : Char}

theorem suffix_of_suffix_append_cons (hc : c ∉ w) (h : w <:+ u ++ c :: v) : w <:+ v := by
  rcases List.suffix_or_suffix_of_suffix h (List.suffix_append u (c :: v)) with h | h
  · rcases List.suffix_cons_iff.1 h with rfl | h
    · exact absurd List.mem_cons_self hc
    · exact h
  · exact absurd (h.subset List.mem_cons_self) hc

/-- A word without a separator stands on one side of it. -/
theorem infix_of_infix_append_cons (hc : c ∉ w) (h : w <:+: u ++ c :: v) :
    w <:+: u ∨ w <:+: v := by
  obtain ⟨s, t, h⟩ := h
  rcases List.append_eq_append_iff.1 h with ⟨a, hu, -⟩ | ⟨a, hw, hv⟩
  · exact .inl ⟨s, a, hu.symm⟩
  · cases a with
    | nil =>
      rw [List.append_nil] at hw
      exact .inl ⟨s, [], by rw [hw, List.append_nil]⟩
    | cons d a =>
      obtain ⟨rfl, rfl⟩ := List.cons.inj hv
      have hsuf : w <:+ u ++ c :: a := ⟨s, hw⟩
      exact .inr ((suffix_of_suffix_append_cons hc hsuf).isInfix.trans
        (List.prefix_append a t).isInfix)

end Text

namespace Octets

theorem toText_slash_cons (o : Octets) : toText ('/' :: o) = '/' :: toText o := by
  have hslash : toBytes ('/' :: o) = String.utf8EncodeChar '/' ++ toBytes o := rfl
  rw [toText, hslash, Text.ofBytesLossy, Text.decode_utf8EncodeChar_append]
  rfl

theorem toText_append_slash (a o : Octets) :
    toText (a ++ '/' :: o) = toText a ++ '/' :: toText o := by
  have hslash : toBytes (a ++ '/' :: o) = toBytes a ++ 0x2F :: toBytes o := List.map_append
  rw [toText, hslash, Text.ofBytesLossy_append (by decide), ← toText_slash_cons]
  rfl

end Octets

namespace Place

theorem toText_path (p : Place) : ∃ rest, (path p).toText = '/' :: rest :=
  ⟨_, Octets.toText_slash_cons _⟩

/-- The path of a place in a directory, which may be the root. -/
theorem path_append_singleton (dir : Place) (name : Octets) :
    path (dir ++ [name]) = (if dir = [] then [] else path dir) ++ '/' :: name := by
  have hnames : ∀ (n : Octets) (ns : List Octets), ['/'].intercalate (n :: ns ++ [name]) =
      ['/'].intercalate (n :: ns) ++ '/' :: name := by
    intro n ns
    induction ns generalizing n with
    | nil => simp [List.intercalate]
    | cons m ns ih =>
      have hstep : ∀ ns : List Octets, ['/'].intercalate (n :: m :: ns) =
          n ++ '/' :: ['/'].intercalate (m :: ns) := by
        intro ns
        simp [List.intercalate]
      rw [List.cons_append, List.cons_append, hstep, ← List.cons_append, ih, hstep]
      simp
  cases dir with
  | nil => simp [path]
  | cons n dir => rw [if_neg (List.cons_ne_nil _ _), path, path, hnames, List.cons_append]

end Place

namespace Toolchain

open Text

/-- A file name that has no part of the placeholder at its end, and reads as it is written. -/
structure IsPlainName (name : Octets) : Prop where
  toText_eq : name.toText = name
  not_infix : ¬ outputPlaceholder <:+: name
  back : ∀ u ∈ outputPlaceholder.inits, u ≠ [] → ¬ u <:+ name

theorem isPlainName_source (variant : Variant) (language : Language) :
    IsPlainName (variant.stem ++ "." ++ language.extension).toList := by
  cases variant <;> cases language <;>
    exact ⟨by decide +kernel, by decide +kernel, by decide +kernel⟩

variable {name : Octets}

/-- The path of a file in a directory ends with its name. -/
theorem IsPlainName.exists_toText_path (h : IsPlainName name) (dir : Place) :
    ∃ pre, (Place.path (dir ++ [name])).toText = pre ++ '/' :: name ∧
      (outputPlaceholder <:+: pre ↔ outputPlaceholder <:+: (Place.path dir).toText) := by
  rw [Place.path_append_singleton, Octets.toText_append_slash, h.toText_eq]
  refine ⟨_, rfl, ?_⟩
  split
  · next hdir =>
    subst hdir
    decide +kernel
  · exact Iff.rfl

theorem IsPlainName.isClosed (h : IsPlainName name) (dir : Place) :
    IsClosed (Place.path (dir ++ [name])).toText := by
  have hslash : '/' ∉ outputPlaceholder := by decide
  refine ⟨?_, fun u hne hpre hsuf => ?_⟩
  · obtain ⟨rest, hrest⟩ := Place.toText_path (dir ++ [name])
    exact ⟨'/', rest, hrest, hslash⟩
  · obtain ⟨pre, hpath, -⟩ := h.exists_toText_path dir
    rw [hpath] at hsuf
    have hname : u <:+ name := suffix_of_suffix_append_cons (fun hu => hslash (hpre.subset hu)) hsuf
    exact h.back u ((List.mem_inits _ _).2 hpre) hne hname

/-- The path of a file has the placeholder if and only if that of its directory does. -/
theorem IsPlainName.infix_iff (h : IsPlainName name) (dir : Place) :
    outputPlaceholder <:+: (Place.path (dir ++ [name])).toText ↔
      outputPlaceholder <:+: (Place.path dir).toText := by
  obtain ⟨pre, hpath, hpre⟩ := h.exists_toText_path dir
  rw [hpath, ← hpre]
  constructor
  · intro hinfix
    rcases infix_of_infix_append_cons (by decide) hinfix with hinfix | hinfix
    · exact hinfix
    · exact absurd hinfix h.not_infix
  · exact fun hinfix => hinfix.trans (List.prefix_append _ _).isInfix

/-- **When arguments are expanded by putting in both paths at once.**  This is so if and only if, in
    each argument of the template, the source brings in no place of the other placeholder, or that one
    stands for itself.  In a trial it holds of all templates if and only if the path of the scratch
    directory does not have that placeholder. -/
theorem arguments_eq_map_substitute_iff (t : Toolchain) (source output : Text) :
    (t.arguments source output = t.args.map (substitute source output) ↔
      ∀ arg ∈ t.args, output = outputPlaceholder ∨
        places outputPlaceholder (Text.replaceAll sourcePlaceholder source arg) =
          places outputPlaceholder arg) ∧
    ∀ (variant : Variant) (dir : Place) (source : Source),
      (∀ t : Toolchain,
        t.arguments (Place.path (variant.sourceFile dir source)).toText
            (Place.path (variant.artifact dir)).toText =
          t.args.map (substitute (Place.path (variant.sourceFile dir source)).toText
            (Place.path (variant.artifact dir)).toText)) ↔
        ¬ outputPlaceholder <:+: (Place.path dir).toText := by
  refine ⟨?_, fun variant dir source => ?_⟩
  · rw [arguments, List.map_inj_left]
    exact forall₂_congr fun arg _ => expand_eq_substitute_iff source output arg
  · have hname := isPlainName_source variant source.language
    have hout : (Place.path (variant.artifact dir)).toText ≠ outputPlaceholder := by
      obtain ⟨rest, hrest⟩ := Place.toText_path (variant.artifact dir)
      rw [hrest]
      exact fun heq => absurd (List.cons.inj heq).1 (by decide)
    rw [← hname.infix_iff dir, ← (hname.isClosed dir).expand_eq_substitute_iff hout]
    constructor
    · intro h arg
      exact (List.cons.inj (h ⟨[], [arg]⟩)).1
    · intro h t
      exact List.map_congr_left fun arg _ => h arg

/-- A scratch directory below one that is named like the placeholder: what should be the source is
    another path, with the file to be built in its middle. -/
theorem arguments_ne_map_substitute :
    ∃ source output : Text, source = "/w/\x7boutput\x7d/codeopt-x/original.cpp".toList ∧
      output = "/w/\x7boutput\x7d/codeopt-x/original_exe".toList ∧
      gxx.arguments source output ≠ gxx.args.map (substitute source output) :=
  ⟨_, _, rfl, rfl, by decide +kernel⟩

end Toolchain

end Retouch
