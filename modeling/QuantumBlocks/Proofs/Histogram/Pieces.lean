import QuantumBlocks.Histogram.Reading
import QuantumBlocks.Proofs.Number.Digits
import QuantumBlocks.Proofs.Text.Runs
import Mathlib.Data.List.TakeWhile

/-!
# Summary lines piece by piece

An entry of a summary line begins after a bar and has no bar in it, so a line is read piece by
piece: each bar and what follows up to the next one gives an entry or nothing.

* `rankedEntries_pieces` — the entries of a line are those of its pieces
* `readPiece?_of_isWord` — the piece of a label of bits gives its entry
* `gatherEntries_of_nodup` — the entries of different labels make a histogram in their order
-/

namespace QuantumBlocks

open Text Number

/-! ## Pieces -/

/-- The entry that the text after a bar begins with. -/
def readPiece? (piece : List Char) : Option RankedEntry :=
  Option.map Prod.fst <| rankedEntry? piece

/-- A text that is over or goes on with a bar. -/
def EndsPiece (rest : List Char) : Prop := ∀ c ∈ rest.head?, c = '|'

theorem EndsPiece.head_eq_false {rest : List Char} (h : EndsPiece rest) {p : Char → Bool}
    (hp : p '|' = false) : ∀ c ∈ rest.head?, p c = false := by
  intro c hc
  rw [h c hc]
  exact hp

/-- What a text begins with if it begins with an entry: bits, the mark, blanks and digits. -/
theorem rankedEntry?_eq_some_iff {cs later : List Char} {entry : RankedEntry} :
    rankedEntry? cs = some (entry, later) ↔
      cs.takeWhile isBit = entry.label ∧ entry.label ≠ [] ∧
      ∃ tail, cs.dropWhile isBit = '>' :: ':' :: tail ∧
        (dropBlank tail).takeWhile isDecimalDigit = entry.count ∧ entry.count ≠ [] ∧
        (dropBlank tail).dropWhile isDecimalDigit = later := by
  obtain ⟨label, count⟩ := entry
  unfold rankedEntry?
  simp only
  split
  · next c bits tail hlabel hmark =>
    rw [hlabel, hmark]
    split
    · next hcount =>
      simp only [reduceCtorEq, false_iff]
      rintro ⟨-, -, other, hother, hdigits, hne, -⟩
      cases hother
      exact hne (hdigits.symm.trans hcount)
    · next hcount =>
      simp only [Option.some.injEq, Prod.mk.injEq, RankedEntry.mk.injEq]
      constructor
      · rintro ⟨⟨rfl, rfl⟩, rfl⟩
        exact ⟨rfl, List.cons_ne_nil _ _, tail, rfl, rfl, hcount, rfl⟩
      · rintro ⟨rfl, -, other, hother, rfl, -, rfl⟩
        cases hother
        exact ⟨⟨rfl, rfl⟩, rfl⟩
  · next hnone =>
    simp only [reduceCtorEq, false_iff]
    rintro ⟨hlabel, hne, tail, hmark, -⟩
    obtain ⟨c, bits, rfl⟩ := List.exists_cons_of_ne_nil hne
    exact hnone c bits tail hlabel hmark

/-- What an entry leaves of a text is the end of that text. -/
theorem rankedEntry?_suffix {cs later : List Char} {entry : RankedEntry}
    (h : rankedEntry? cs = some (entry, later)) : later <:+ cs := by
  obtain ⟨-, -, tail, hmark, -, -, rfl⟩ := rankedEntry?_eq_some_iff.mp h
  have htail : tail <:+ cs.dropWhile isBit := by
    rw [hmark]
    exact ⟨['>', ':'], rfl⟩
  have hlater : (dropBlank tail).dropWhile isDecimalDigit <:+ tail :=
    (List.dropWhile_suffix _).trans (List.dropWhile_suffix _)
  exact hlater.trans (htail.trans (List.dropWhile_suffix _))

/-- A mark does not go on into a text that begins with no part of one. -/
theorem append_eq_mark_iff {cs rest tail : List Char}
    (hrest : ∀ c ∈ rest.head?, c ≠ '>' ∧ c ≠ ':') :
    cs ++ rest = '>' :: ':' :: tail ↔ ∃ t, cs = '>' :: ':' :: t ∧ tail = t ++ rest := by
  constructor
  · intro h
    match cs, h with
    | [], h =>
      rw [List.nil_append] at h
      rw [h] at hrest
      exact absurd rfl (hrest '>' rfl).1
    | [c], h =>
      rw [List.singleton_append, List.cons.injEq] at h
      rw [h.2] at hrest
      exact absurd rfl (hrest ':' rfl).2
    | c :: d :: t, h =>
      simp only [List.cons_append, List.cons.injEq] at h
      obtain ⟨rfl, rfl, rfl⟩ := h
      exact ⟨t, rfl, rfl⟩
  · rintro ⟨t, rfl, rfl⟩
    rfl

/-- The next bar ends an entry. -/
theorem rankedEntry?_append (piece : List Char) {rest : List Char} (hrest : EndsPiece rest) :
    rankedEntry? (piece ++ rest)
      = Option.map (fun found => (found.1, found.2 ++ rest)) ( rankedEntry? piece) := by
  have hbit := hrest.head_eq_false (p := isBit) (by decide)
  have hblank := hrest.head_eq_false (p := isBlank) (by decide)
  have hdigit := hrest.head_eq_false (p := isDecimalDigit) (by decide)
  have hmark : ∀ c ∈ rest.head?, c ≠ '>' ∧ c ≠ ':' := by
    intro c hc
    rw [hrest c hc]
    decide
  have hdrop (t : List Char) : dropBlank (t ++ rest) = dropBlank t ++ rest :=
    dropWhile_append_of_head hblank
  -- A run of any kind that reaches the bar ends there, so the runs are those of the piece.
  refine Option.ext fun ⟨entry, later⟩ => ?_
  rw [Option.map_eq_some_iff, rankedEntry?_eq_some_iff, takeWhile_append_of_head hbit,
    dropWhile_append_of_head hbit]
  constructor
  · rintro ⟨hlabel, hne, tail, htail, hcount, hcount', rfl⟩
    obtain ⟨t, ht, rfl⟩ := (append_eq_mark_iff hmark).mp htail
    rw [hdrop, takeWhile_append_of_head hdigit] at hcount
    rw [hdrop, dropWhile_append_of_head hdigit]
    exact ⟨(entry, _), rankedEntry?_eq_some_iff.mpr
      ⟨hlabel, hne, t, ht, hcount, hcount', rfl⟩, rfl⟩
  · rintro ⟨⟨other, t'⟩, hfound, hsame⟩
    cases hsame
    obtain ⟨hlabel, hne, t, ht, hcount, hcount', rfl⟩ := rankedEntry?_eq_some_iff.mp hfound
    refine ⟨hlabel, hne, t ++ rest, (append_eq_mark_iff hmark).mpr ⟨t, ht, rfl⟩, ?_, hcount', ?_⟩
    · rw [hdrop, takeWhile_append_of_head hdigit]
      exact hcount
    · rw [hdrop, dropWhile_append_of_head hdigit]

/-! ## Lines -/

/-- What stands before the first bar holds no entry. -/
theorem rankedEntries_skip {front : List Char} (h : '|' ∉ front) (rest : List Char) :
    rankedEntries (front ++ rest) = rankedEntries rest := by
  induction front with
  | nil => rfl
  | cons c front ih =>
    rw [List.mem_cons, not_or] at h
    rw [List.cons_append, rankedEntries, if_neg (Ne.symm h.1), ih h.2]

/-- **A bar and the piece after it give the entry of that piece.** -/
theorem rankedEntries_piece {piece rest : List Char} (hpiece : '|' ∉ piece)
    (hrest : EndsPiece rest) :
    rankedEntries ('|' :: (piece ++ rest))
      = (readPiece? piece).toList ++ rankedEntries rest := by
  rw [rankedEntries, if_pos rfl, readPiece?]
  split
  · next entry later h =>
    rw [rankedEntry?_append piece hrest] at h
    obtain ⟨⟨other, t⟩, hfound, hsame⟩ := Option.map_eq_some_iff.mp h
    cases hsame
    -- What the entry leaves of its piece is passed over up to the next bar.
    have ht : '|' ∉ t := fun hm => hpiece ((rankedEntry?_suffix hfound).subset hm)
    rw [rankedEntries_skip ht, hfound]
    rfl
  · next h =>
    rw [rankedEntry?_append piece hrest, Option.map_eq_none_iff] at h
    rw [rankedEntries_skip hpiece, h]
    rfl

theorem endsPiece_flatMap_cons (pieces : List (List Char)) :
    EndsPiece (pieces.flatMap fun piece => '|' :: piece) := by
  intro c hc
  cases pieces with
  | nil => cases hc
  | cons piece pieces =>
    rw [List.flatMap_cons, List.cons_append, List.head?_cons, Option.mem_some_iff] at hc
    exact hc.symm

/-- **The entries of a line are those of its pieces.** -/
theorem rankedEntries_pieces {pieces : List (List Char)} (h : ∀ piece ∈ pieces, '|' ∉ piece) :
    rankedEntries (pieces.flatMap fun piece => '|' :: piece) = pieces.filterMap readPiece? := by
  induction pieces with
  | nil =>
    rw [List.flatMap_nil, rankedEntries]
    rfl
  | cons piece pieces ih =>
    rw [List.forall_mem_cons] at h
    rw [List.flatMap_cons, List.cons_append,
      rankedEntries_piece h.1 (endsPiece_flatMap_cons pieces), ih h.2]
    cases hentry : readPiece? piece with
    | none => rw [List.filterMap_cons_none hentry]; rfl
    | some entry => rw [List.filterMap_cons_some hentry]; rfl

/-! ## Written entries -/

/-- A label is one word of bits. -/
def IsWord (label : List Char) : Prop := label ≠ [] ∧ label.all isBit = true

instance (label : List Char) : Decidable (IsWord label) := inferInstanceAs (Decidable (_ ∧ _))

/-- A label with its count as a piece has them, and what follows. -/
def writtenEntry (label : List Char) (count : Nat) (tail : List Char) : List Char :=
  label ++ '>' :: ':' :: ' ' :: (Nat.toDigits 10 count ++ tail)

/-- The one blank before a number is dropped. -/
theorem dropBlank_space_toDigits (n : Nat) (tail : List Char) :
    dropBlank (' ' :: (Nat.toDigits 10 n ++ tail)) = Nat.toDigits 10 n ++ tail := by
  obtain ⟨d, ds, hd, hdigit⟩ := exists_toDigits_eq_cons n
  have hfirst : isBlank d = false := isBlank_of_isAsciiDigit hdigit
  rw [dropBlank, List.dropWhile_cons_of_pos (by decide), hd, List.cons_append,
    List.dropWhile_cons_of_neg (by rw [hfirst]; decide)]

/-- **The piece of a word gives its entry.** -/
theorem readPiece?_of_isWord {label tail : List Char} (h : IsWord label)
    (htail : ∀ c ∈ tail.head?, isDecimalDigit c = false) (count : Nat) :
    readPiece? (writtenEntry label count tail) = some ⟨label, Nat.toDigits 10 count⟩ := by
  have hbits : ∀ c ∈ label, isBit c = true := List.all_eq_true.mp h.2
  have hdigits : ∀ c ∈ Nat.toDigits 10 count, isDecimalDigit c = true :=
    fun c hc => isDecimalDigit_of_mem_toDigits hc
  have hmark : ∀ c ∈ ('>' :: ':' :: ' ' :: (Nat.toDigits 10 count ++ tail)).head?,
      isBit c = false := by
    rintro c ⟨⟩
    decide
  have hfound : rankedEntry? (writtenEntry label count tail)
      = some (⟨label, Nat.toDigits 10 count⟩, tail) := by
    refine rankedEntry?_eq_some_iff.mpr
      ⟨?_, h.1, ' ' :: (Nat.toDigits 10 count ++ tail), ?_, ?_, Nat.toDigits_ne_nil, ?_⟩
    · rw [writtenEntry, takeWhile_append_of_head hmark]
      exact List.takeWhile_eq_self_iff.mpr hbits
    · rw [writtenEntry, dropWhile_append_of_head hmark, List.dropWhile_eq_nil_iff.mpr hbits]
      rfl
    · rw [dropBlank_space_toDigits, takeWhile_append_of_head htail]
      exact List.takeWhile_eq_self_iff.mpr hdigits
    · rw [dropBlank_space_toDigits, dropWhile_append_of_head htail,
        List.dropWhile_eq_nil_iff.mpr hdigits]
      rfl
  rw [readPiece?, hfound]
  rfl

/-- The piece of a label with a blank in it gives no entry. -/
theorem readPiece?_of_blank {word rest : List Char} (h : ∀ c ∈ word, isBit c = true) :
    readPiece? (word ++ ' ' :: rest) = none := by
  rw [readPiece?, Option.map_eq_none_iff, Option.eq_none_iff_forall_ne_some]
  intro ⟨entry, later⟩ hfound
  obtain ⟨-, -, tail, hmark, -⟩ := rankedEntry?_eq_some_iff.mp hfound
  rw [List.dropWhile_append_of_pos h, List.dropWhile_cons_of_neg (by decide)] at hmark
  cases hmark

/-! ## Histograms of entries -/

theorem setEntry_of_not_mem {label : String} {entries : List (String × Nat)}
    (h : label ∉ entries.map Prod.fst) (count : Nat) :
    setEntry label count entries = entries ++ [(label, count)] := by
  induction entries with
  | nil => rfl
  | cons head rest ih =>
    obtain ⟨other, old⟩ := head
    rw [List.map_cons, List.mem_cons, not_or] at h
    rw [setEntry, if_neg (Ne.symm h.1), ih h.2, List.cons_append]

theorem isEmpty_insert (h : Histogram) (label : String) (count : Nat) :
    (h.insert label count).isEmpty = false := by
  rw [Histogram.isEmpty, List.isEmpty_eq_false_iff]
  intro hnone
  have hlabels := Histogram.labels_insert h label count
  rw [hnone, List.map_nil] at hlabels
  split at hlabels
  · next hm => simp [← hlabels] at hm
  · simp at hlabels

/-- Different labels are set in their order. -/
theorem entries_foldl_insert {entries : List (String × Nat)} (h : Histogram)
    (hlabels : ((h.entries ++ entries).map Prod.fst).Nodup) :
    (entries.foldl (fun h pair => h.insert pair.1 pair.2) h).entries = h.entries ++ entries := by
  induction entries generalizing h with
  | nil => rw [List.foldl_nil, List.append_nil]
  | cons entry entries ih =>
    obtain ⟨label, count⟩ := entry
    have hnew : label ∉ h.entries.map Prod.fst := by
      rw [List.map_append, List.nodup_append] at hlabels
      intro hm
      exact hlabels.2.2 label hm label List.mem_cons_self rfl
    have hinsert : (h.insert label count).entries = h.entries ++ [(label, count)] :=
      setEntry_of_not_mem hnew count
    have hsplit : (h.insert label count).entries ++ entries
        = h.entries ++ (label, count) :: entries := by
      rw [hinsert, List.append_assoc, List.singleton_append]
    rw [List.foldl_cons, ih _ (hsplit ▸ hlabels), hsplit]

/-- A histogram is that of its own entries. -/
theorem Histogram.ofList_entries (h : Histogram) : Histogram.ofList h.entries = h := by
  have hsame : (Histogram.ofList h.entries).entries = h.entries :=
    entries_foldl_insert .empty h.nodup
  cases hread : Histogram.ofList h.entries
  rw [hread] at hsame
  cases h
  cases hsame
  rfl

/-- Only labels that are given are set. -/
theorem mem_labels_of_mem_ofList {pairs : List (String × Nat)} {entry : String × Nat}
    (h : entry ∈ (Histogram.ofList pairs).entries) : entry.1 ∈ pairs.map Prod.fst := by
  have hsubset : (Histogram.ofList pairs).entries.map Prod.fst ⊆ pairs.map Prod.fst := by
    refine List.foldlRecOn
      (motive := fun g : Histogram => g.entries.map Prod.fst ⊆ pairs.map Prod.fst)
      pairs _ (List.nil_subset _) fun g hg pair hpair => ?_
    rw [Histogram.labels_insert]
    split
    · exact hg
    · have hlabel : pair.1 ∈ pairs.map Prod.fst := List.mem_map_of_mem hpair
      exact List.append_subset.mpr ⟨hg, by simpa using hlabel⟩
  exact hsubset (List.mem_map_of_mem h)

/-- The count of an entry that wrote a number of 64 bits is that number. -/
theorem readCount?_toDigits {n : Nat} (h : n ≤ maxUnsigned64) :
    readCount? (Nat.toDigits 10 n) = some n := by
  rw [readCount?, readNatural?_toDigits, Option.filter_some, if_pos (decide_eq_true h)]

/-- The entry of a label with its count. -/
def toRanked (entry : String × Nat) : RankedEntry :=
  ⟨entry.1.toList, Nat.toDigits 10 entry.2⟩

/-- Entries with counts of 64 bits are gathered one after the other. -/
theorem gatherEntries_map_toRanked {pairs : List (String × Nat)}
    (hcounts : ∀ e ∈ pairs, e.2 ≤ maxUnsigned64) (h : Histogram) :
    gatherEntries h (pairs.map toRanked)
      = .ok (pairs.foldl (fun h pair => h.insert pair.1 pair.2) h) := by
  induction pairs generalizing h with
  | nil => rfl
  | cons entry pairs ih =>
    obtain ⟨hcount, hcounts⟩ := List.forall_mem_cons.mp hcounts
    rw [List.map_cons, gatherEntries, toRanked, readCount?_toDigits hcount, String.ofList_toList]
    exact ih hcounts _

/-- **Different labels are gathered in their order**, each with its count. -/
theorem gatherEntries_of_nodup {entries : List (String × Nat)} (h : Histogram)
    (hcounts : ∀ entry ∈ entries, entry.2 ≤ maxUnsigned64)
    (hlabels : ((h.entries ++ entries).map Prod.fst).Nodup) :
    ∃ g, gatherEntries h (entries.map toRanked) = .ok g ∧ g.entries = h.entries ++ entries :=
  ⟨_, gatherEntries_map_toRanked hcounts h, entries_foldl_insert h hlabels⟩

end QuantumBlocks
