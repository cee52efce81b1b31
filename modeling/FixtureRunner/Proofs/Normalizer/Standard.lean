/-
The standard normalizer.

Its patterns match the lines that begin with one of two headers, whatever follows.  A line that
begins with a header still does when text is put behind it, so no line turns into a header by
losing the white space at its end, and a normalized text stays as it is.
-/

import FixtureRunner.Proofs.Normalizer.File
import FixtureRunner.Proofs.Pattern.Header

namespace FixtureRunner

open Text

/-- The line begins with a header that a compiler stamps on its output. -/
def IsStamp (line : Text) : Prop :=
  "; ModuleID = ".toList <+: line ∨ "source_filename = ".toList <+: line

instance (line : Text) : Decidable (IsStamp line) :=
  inferInstanceAs (Decidable (_ ∨ _))

theorem IsStamp.append {line : Text} (isStamp : IsStamp line) (tail : Text) :
    IsStamp (line ++ tail) := by
  rcases isStamp with isModule | isSource
  · exact Or.inl (isModule.trans (List.prefix_append line tail))
  · exact Or.inr (isSource.trans (List.prefix_append line tail))

namespace Normalizer

theorem standard_patterns :
    standard.patterns = [Pattern.headerExpression "; ModuleID = ".toList,
      Pattern.headerExpression "source_filename = ".toList] := by
  have compiled (header : String) (arePlain : header.toList.all (Pattern.IsPlain ·) = true) :
      Pattern.compile ("^" ++ header ++ ".*$") = .ok (Pattern.headerExpression header.toList) :=
    Pattern.compile_header (by simpa using arePlain)
  have areHeaders : standardPatterns =
      ["^" ++ "; ModuleID = " ++ ".*$", "^" ++ "source_filename = " ++ ".*$"] := by decide
  rw [standard, areHeaders]
  simp only [List.filterMap_cons, List.filterMap_nil, compiled "; ModuleID = " (by decide),
    compiled "source_filename = " (by decide), Except.toOption]

theorem isVolatile_standard_iff {line : Text} (isLine : '\n' ∉ line) :
    standard.isVolatile line = true ↔ IsStamp line := by
  rw [isVolatile, standard_patterns, List.any_cons, List.any_cons, List.any_nil, Bool.or_false,
    Bool.or_eq_true, Pattern.headerExpression_matchesIn_iff isLine,
    Pattern.headerExpression_matchesIn_iff isLine]
  rfl

theorem keptLines_standard (text : Text) :
    keptLines standard.isVolatile text = (lines text).filter fun line => ¬ IsStamp line := by
  refine List.filter_congr fun line isThere => ?_
  have sameTest := isVolatile_standard_iff (newline_notMem_of_lines isThere)
  by_cases isStamp : IsStamp line
  · simp [isStamp, sameTest.mpr isStamp]
  · simp [isStamp, mt sameTest.mp isStamp]

theorem keepsTrimmed_standard : KeepsTrimmed standard.isVolatile := by
  intro line isLine isKept _
  obtain ⟨_, tail, _, isText⟩ := trimEnd_eq_iff.mp (rfl : trimEnd line = _)
  have isLineTrimmed : '\n' ∉ trimEnd line := by
    rw [isText] at isLine
    exact fun isBroken => isLine (List.mem_append_left _ isBroken)
  rw [← Bool.not_eq_true, isVolatile_standard_iff isLineTrimmed]
  intro isStamp
  have isStampWhole : IsStamp line := by
    rw [isText]
    exact isStamp.append tail
  rw [(isVolatile_standard_iff isLine).mpr isStampWhole] at isKept
  cases isKept

/-- The standard normalizer leaves out the lines that begin with a header and no others, cuts the
white space at the end and ends the text with a newline.  Normalizing again changes nothing. -/
theorem standard_normalize (text : Text) :
    (∃ kept tail, unlines ((lines text).filter fun line => ¬ IsStamp line) = kept ++ tail ∧
      EndsInk kept ∧ IsWhite tail ∧ standard.normalize text = kept ++ ['\n']) ∧
    standard.normalize (standard.normalize text) = standard.normalize text := by
  constructor
  · obtain ⟨endsInk, tail, isWhite, isText⟩ := trimEnd_eq_iff.mp
      (rfl : trimEnd (unlines (keptLines standard.isVolatile text)) = _)
    refine ⟨_, tail, ?_, endsInk, isWhite, normalizeWith_eq standard.isVolatile text⟩
    rw [← keptLines_standard]
    exact isText
  · exact (idempotent_iff_keepsTrimmed standard.isVolatile).mpr keepsTrimmed_standard text

end Normalizer

end FixtureRunner
