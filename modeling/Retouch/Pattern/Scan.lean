/-
  Scanning a text for the matches of a pattern, from left to right and without overlap.

  `segments` cuts a text into its matches and the single characters between them; the segments
  concatenate to the text (`flatten_text_segments`).  Replacing works on the segments: `replaceAll`
  writes something else for each match and copies the other characters.
-/
import Retouch.Pattern.Basic

namespace Retouch

/-- A part of a scanned text: a character outside all matches, or a match. -/
inductive Segment where
  | plain (c : Char)
  | hit (m : Match)
deriving Repr, DecidableEq

namespace Segment

/-- The text that a segment covers. -/
def text : Segment → Text
  | plain c => [c]
  | hit m => m.text

/-- The match of a segment, if it is one. -/
def match? : Segment → Option Match
  | plain _ => none
  | hit m => some m

end Segment

namespace Matcher

/-- The segments of `t`, where `before` is the character in front of `t`.  At each place the match
    there is taken, if there is one that covers something, and otherwise one character. -/
def segmentsFrom (f : Matcher) (before : Option Char) (t : Text) : List Segment :=
  match t with
  | [] => []
  | c :: r =>
    match f before (c :: r) with
    | none => .plain c :: segmentsFrom f (some c) r
    | some m =>
      if m.rest.length < (c :: r).length then
        .hit m :: segmentsFrom f (m.text.getLast?.or before) m.rest
      else .plain c :: segmentsFrom f (some c) r
termination_by t.length
decreasing_by
  · simp
  · assumption
  · simp

/-- The segments of a whole text. -/
def segments (f : Matcher) (t : Text) : List Segment := f.segmentsFrom none t

/-- The matches in a text, in order. -/
def findAll (f : Matcher) (t : Text) : List Match := (f.segments t).filterMap Segment.match?

/-- The text with `g m` in place of each match `m`. -/
def replaceAll (f : Matcher) (g : Match → Text) (t : Text) : Text :=
  (f.segments t).flatMap fun
    | .plain c => [c]
    | .hit m => g m

/-- Matches that split the text they are read from: their text and their rest make it up. -/
def Splits (f : Matcher) : Prop :=
  ∀ {before t m}, f before t = some m → m.text ++ m.rest = t

theorem flatten_text_segmentsFrom {f : Matcher} (hf : f.Splits) (before : Option Char) (t : Text) :
    ((f.segmentsFrom before t).map Segment.text).flatten = t := by
  fun_induction segmentsFrom f before t with
  | case1 => rfl
  | case2 before c r _ ih => simp [Segment.text, ih]
  | case3 before c r m hm _ ih =>
    simp only [List.map_cons, Segment.text, List.flatten_cons, ih]
    exact hf hm
  | case4 before c r m hm _ ih => simp [Segment.text, ih]

/-- The segments of a text concatenate to it. -/
theorem flatten_text_segments {f : Matcher} (hf : f.Splits) (t : Text) :
    ((f.segments t).map Segment.text).flatten = t :=
  flatten_text_segmentsFrom hf none t

end Matcher

theorem Pattern.splits (p : Pattern) : Matcher.Splits p.read? := Pattern.append_read?

/-- The text with `r` in place of each occurrence of `w`, from left to right. -/
def Text.replaceAll (w r t : Text) : Text :=
  Matcher.replaceAll (Pattern.read? [.word w]) (fun _ => r) t

/-- Whether `w` occurs in `t`. -/
def Text.hasPart (w : Text) : Text → Bool
  | [] => w.isEmpty
  | c :: t => w.isPrefixOf (c :: t) || hasPart w t

end Retouch
