import QuantumBlocks.Histogram.Basic
import QuantumBlocks.Text.Blank
import QuantumBlocks.Number.Decimal

/-!
# Reading histograms from text

Counts come as text in three shapes: a JSON object, the same with apostrophes for quotes, and a
summary line with entries such as `|01>: 525 (52.5%)`. The first two are read alike; the third is
told by its marks and read entry by entry, everything between entries being passed over.
-/

namespace QuantumBlocks

open Json Text Number

/-! ## Errors -/

/-- Why a text gives no histogram. -/
inductive HistogramError where
  | invalidMapping (reason : String)
  | invalidCount (label count : String)
  | unrecognizedText
  deriving DecidableEq, Repr

/-- An error in words. -/
def HistogramError.message : HistogramError → String
  | .invalidMapping reason => "Invalid count mapping: " ++ reason
  | .invalidCount label count => "Invalid count for |" ++ label ++ ">: " ++ count
  | .unrecognizedText => "Could not parse text result format"

/-! ## Mappings -/

/-- The text with quotes for apostrophes. -/
def straightenQuotes (s : String) : String :=
  String.ofList (s.toList.map fun c => if c = '\'' then '\"' else c)

/-- Reads a mapping with quotes or apostrophes. -/
def readMapping (s : String) : Except HistogramError Histogram :=
  (Histogram.decoder.parse (straightenQuotes s)).mapError .invalidMapping

/-! ## Summary lines -/

/-- Whether a character is a bit. -/
def isBit (c : Char) : Bool := c = '0' || c = '1'

/-- An entry of a summary line. -/
structure RankedEntry where
  label : List Char
  count : List Char

/-- The entry after a bar: bits, the mark, blanks and digits; with the text after its digits. -/
def rankedEntry? (cs : List Char) : Option (RankedEntry × List Char) :=
  let label := cs.takeWhile isBit
  match label, cs.dropWhile isBit with
  | _ :: _, '>' :: ':' :: tail =>
    let digits := dropBlank tail
    let count := digits.takeWhile isDecimalDigit
    if count = [] then none else some (⟨label, count⟩, digits.dropWhile isDecimalDigit)
  | _, _ => none

theorem rankedEntry?_length {cs : List Char} {entry : RankedEntry} {rest : List Char}
    (h : rankedEntry? cs = some (entry, rest)) : rest.length ≤ cs.length := by
  unfold rankedEntry? at h
  simp only at h
  split at h
  · rename_i tail _ hd
    split at h
    · simp at h
    · simp only [Option.some.injEq, Prod.mk.injEq] at h
      obtain ⟨_, rfl⟩ := h
      have h1 := (List.dropWhile_suffix isBit (l := cs)).length_le
      have h2 := (List.dropWhile_suffix isBlank (l := tail)).length_le
      have h3 := (List.dropWhile_suffix isDecimalDigit (l := dropBlank tail)).length_le
      rw [hd] at h1
      simp only [List.length_cons] at h1
      simp only [dropBlank] at h3 ⊢
      omega
  · simp at h

/-- All entries of a text, from left to right. -/
def rankedEntries (cs : List Char) : List RankedEntry :=
  match cs with
  | [] => []
  | c :: rest =>
    if c = '|' then
      match h : rankedEntry? rest with
      | some (entry, later) =>
        have := rankedEntry?_length h
        entry :: rankedEntries later
      | none => rankedEntries rest
    else rankedEntries rest
termination_by cs.length

/-- The count that digits write, which are of ASCII and write a number of 64 bits. -/
def readCount? (digits : List Char) : Option Nat :=
  (readNatural? digits).filter (· ≤ maxUnsigned64)

/-- Sets the entries one after the other; the first whose count is no number of 64 bits fails. -/
def gatherEntries (h : Histogram) : List RankedEntry → Except HistogramError Histogram
  | [] => .ok h
  | entry :: rest =>
    match readCount? entry.count with
    | some n => gatherEntries (h.insert (String.ofList entry.label) n) rest
    | none => .error (.invalidCount (String.ofList entry.label) (String.ofList entry.count))

/-- Reads a summary line. -/
def readRanked (s : String) : Except HistogramError Histogram :=
  match gatherEntries .empty (rankedEntries s.toList) with
  | .error e => .error e
  | .ok h => if h.isEmpty then .error .unrecognizedText else .ok h

/-! ## All shapes -/

/-- Whether the mark of an entry stands anywhere in a text. -/
def hasMark : List Char → Bool
  | '>' :: ':' :: _ => true
  | _ :: rest => hasMark rest
  | [] => false

/-- Whether a text without blanks at its ends is read as a summary line. -/
def isRanked (cs : List Char) : Bool :=
  cs.head? != some '\x7b' && cs.contains '|' && hasMark cs

/-- Reads a histogram in any of the shapes. -/
def readHistogram (s : String) : Except HistogramError Histogram :=
  let trimmed := trim s
  if isRanked trimmed.toList then readRanked trimmed else readMapping trimmed

end QuantumBlocks
