import QuantumBlocks.Proofs.Counts.Ranking
import QuantumBlocks.Proofs.Histogram.Pieces

/-!
# Summaries as histograms

A summary is a summary line in the sense of the reader, and what the reader finds in it are the
outcomes that are one word. Of an outcome with a blank in it nothing is found, since the label of
an entry goes from the bar to the mark without one.

* `toList_intercalate_summaryEntry` — the pieces of a summary
* `rankedEntries_summary` — what the reader finds in them
* `readHistogram_summary` — what a summary reads as
-/

namespace QuantumBlocks

open Text Number

/-! ## Pieces of a summary -/

/-- The share at the end of a summary entry. -/
def shareText (total count : Nat) : List Char :=
  ' ' :: '(' :: ((oneDecimal (percentage count total)).toList ++ ['%', ')'])

/-- The pieces of a summary, each with the separator after it. -/
def summaryPieces (total : Nat) : List (String × Nat) → List (List Char)
  | [] => []
  | [entry] => [writtenEntry entry.1.toList entry.2 (shareText total entry.2)]
  | entry :: next :: rest =>
    writtenEntry entry.1.toList entry.2 (shareText total entry.2 ++ [',', ' '])
      :: summaryPieces total (next :: rest)

theorem toList_summaryEntry (total : Nat) (entry : String × Nat) :
    (Counts.summaryEntry total entry).toList
      = '|' :: writtenEntry entry.1.toList entry.2 (shareText total entry.2) := by
  simp [Counts.summaryEntry, writtenEntry, shareText]

theorem toList_intercalate_summaryEntry (total : Nat) (entries : List (String × Nat)) :
    (String.intercalate ", " (entries.map (Counts.summaryEntry total))).toList
      = (summaryPieces total entries).flatMap fun piece => '|' :: piece := by
  induction entries with
  | nil => rfl
  | cons entry rest ih =>
    cases rest with
    | nil =>
      rw [List.map_singleton, String.intercalate_singleton, toList_summaryEntry, summaryPieces,
        List.flatMap_singleton]
    | cons next rest =>
      rw [List.map_cons] at ih
      rw [List.map_cons, List.map_cons, String.intercalate_cons_cons, String.toList_append,
        String.toList_append, ih, toList_summaryEntry]
      simp [summaryPieces, writtenEntry]

/-! ## What the reader finds -/

/-- A label of bits and blanks. -/
def IsPlain (label : List Char) : Prop := ∀ c ∈ label, isBit c = true ∨ c = ' '

theorem IsWord.isPlain {label : List Char} (h : IsWord label) : IsPlain label :=
  fun c hc => Or.inl (List.all_eq_true.mp h.2 c hc)

theorem bar_not_mem_toDigits (n : Nat) : '|' ∉ Nat.toDigits 10 n :=
  not_mem_toDigits (by decide) n

theorem bar_not_mem_shareText (total count : Nat) : '|' ∉ shareText total count := by
  rw [shareText, toList_oneDecimal]
  simp [bar_not_mem_toDigits]

theorem IsPlain.bar_not_mem {label : List Char} (h : IsPlain label) : '|' ∉ label := by
  intro hm
  rcases h '|' hm with hbit | hblank
  · exact absurd hbit (by decide)
  · exact absurd hblank (by decide)

theorem bar_not_mem_writtenEntry {label tail : List Char} (hlabel : IsPlain label)
    (htail : '|' ∉ tail) (count : Nat) : '|' ∉ writtenEntry label count tail := by
  simp [writtenEntry, hlabel.bar_not_mem, bar_not_mem_toDigits, htail]

/-- The piece of a plain label that is no word gives no entry. -/
theorem readPiece?_of_not_isWord {label : List Char} (hplain : IsPlain label)
    (h : ¬IsWord label) (count : Nat) (tail : List Char) :
    readPiece? (writtenEntry label count tail) = none := by
  rw [writtenEntry, ← List.takeWhile_append_dropWhile (p := isBit) (l := label)]
  cases hrest : label.dropWhile isBit with
  | nil =>
    -- Nothing but bits, so it is empty and the mark stands first.
    have hempty : label = [] := by
      by_contra hne
      exact h ⟨hne, List.all_eq_true.mpr (List.dropWhile_eq_nil_iff.mp hrest)⟩
    rw [hempty]
    rfl
  | cons c rest =>
    have hc : c ∈ label := (List.dropWhile_suffix isBit).subset (hrest ▸ List.mem_cons_self)
    have hstop : isBit c = false := by
      have hhead := List.head?_dropWhile_not isBit label
      rw [hrest] at hhead
      simpa using hhead
    have hblank : c = ' ' := by
      rcases hplain c hc with hbit | hblank
      · rw [hstop] at hbit
        cases hbit
      · exact hblank
    rw [hblank, List.append_assoc, List.cons_append]
    exact readPiece?_of_blank fun d hd => List.mem_takeWhile_imp hd

theorem bar_not_mem_summaryPieces (total : Nat) {entries : List (String × Nat)}
    (h : ∀ entry ∈ entries, IsPlain entry.1.toList) :
    ∀ piece ∈ summaryPieces total entries, '|' ∉ piece := by
  fun_induction summaryPieces total entries with
  | case1 => simp
  | case2 entry =>
    rw [List.forall_mem_singleton] at h ⊢
    exact bar_not_mem_writtenEntry h (bar_not_mem_shareText _ _) _
  | case3 entry next rest ih =>
    rw [List.forall_mem_cons] at h ⊢
    refine ⟨bar_not_mem_writtenEntry h.1 ?_ _, ih h.2⟩
    simp [bar_not_mem_shareText]

/-- A plain label gives its entry if it is a word, and nothing if it is not. -/
theorem readPiece?_writtenEntry {entry : String × Nat} (h : IsPlain entry.1.toList)
    {tail : List Char} (htail : ∀ c ∈ tail.head?, isDecimalDigit c = false) :
    readPiece? (writtenEntry entry.1.toList entry.2 tail)
      = if IsWord entry.1.toList then some (toRanked entry) else none := by
  split
  · next hword => exact readPiece?_of_isWord hword htail entry.2
  · next hword => exact readPiece?_of_not_isWord h hword entry.2 tail

theorem head_shareText (total count : Nat) (sep : List Char) :
    ∀ c ∈ (shareText total count ++ sep).head?, isDecimalDigit c = false := by
  rintro c ⟨⟩
  decide

/-- The entries that the pieces of a summary give are those of its words. -/
theorem filterMap_summaryPieces (total : Nat) {entries : List (String × Nat)}
    (h : ∀ entry ∈ entries, IsPlain entry.1.toList) :
    (summaryPieces total entries).filterMap readPiece?
      = (entries.filter fun entry => IsWord entry.1.toList).map toRanked := by
  fun_induction summaryPieces total entries with
  | case1 => rfl
  | case2 entry =>
    rw [List.forall_mem_singleton] at h
    have hhead := head_shareText total entry.2 []
    rw [List.append_nil] at hhead
    rw [List.filterMap_cons, readPiece?_writtenEntry h hhead, List.filterMap_nil]
    by_cases hword : IsWord entry.1.toList
    · simp [hword]
    · simp [hword]
  | case3 entry next rest ih =>
    rw [List.forall_mem_cons] at h
    rw [List.filterMap_cons, readPiece?_writtenEntry h.1 (head_shareText _ _ _), ih h.2]
    by_cases hword : IsWord entry.1.toList
    · rw [if_pos hword, List.filter_cons_of_pos (a := entry) (decide_eq_true hword)]
      rfl
    · rw [if_neg hword, List.filter_cons_of_neg (a := entry) (by simpa using hword)]

/-- **What the reader finds in a summary are the outcomes that are one word.** -/
theorem rankedEntries_summary (total : Nat) {entries : List (String × Nat)}
    (h : ∀ entry ∈ entries, IsPlain entry.1.toList) :
    rankedEntries (String.intercalate ", " (entries.map (Counts.summaryEntry total))).toList
      = (entries.filter fun entry => IsWord entry.1.toList).map toRanked := by
  rw [toList_intercalate_summaryEntry, rankedEntries_pieces (bar_not_mem_summaryPieces total h),
    filterMap_summaryPieces total h]

/-! ## The summary as a text -/

/-- A text that neither begins nor ends with a blank is not trimmed. -/
theorem trimChars_eq_self {cs : List Char} (hhead : ∀ c ∈ cs.head?, isBlank c = false)
    (hlast : ∀ c ∈ cs.getLast?, isBlank c = false) : trimChars cs = cs := by
  have hsurround := trimChars_surround ⟨[], by simp⟩ ⟨[], by simp⟩ hhead hlast
  rw [List.nil_append, List.append_nil] at hsurround
  exact hsurround

theorem hasMark_append (front tail : List Char) :
    hasMark (front ++ '>' :: ':' :: tail) = true := by
  induction front with
  | nil => rfl
  | cons c front ih =>
    rw [List.cons_append]
    unfold hasMark
    split
    · rfl
    · next heq =>
      cases heq
      exact ih
    · next heq => cases heq

theorem getLast?_flatMap_summaryPieces (total : Nat) {entries : List (String × Nat)}
    (h : entries ≠ []) :
    ((summaryPieces total entries).flatMap fun piece => '|' :: piece).getLast? = some ')' := by
  fun_induction summaryPieces total entries with
  | case1 => exact absurd rfl h
  | case2 entry =>
    have hclosed : '|' :: writtenEntry entry.1.toList entry.2 (shareText total entry.2)
        = ('|' :: writtenEntry entry.1.toList entry.2
            (' ' :: '(' :: ((oneDecimal (percentage entry.2 total)).toList ++ ['%'])))
          ++ [')'] := by
      simp [writtenEntry, shareText]
    rw [List.flatMap_singleton, hclosed, List.getLast?_concat]
  | case3 entry next rest ih =>
    rw [List.flatMap_cons, List.getLast?_append, ih (List.cons_ne_nil _ _)]
    rfl

/-- The first entry of a summary begins it. -/
theorem exists_flatMap_summaryPieces_eq (total : Nat) {entries : List (String × Nat)}
    (h : entries ≠ []) :
    ∃ front tail, (summaryPieces total entries).flatMap (fun piece => '|' :: piece)
      = '|' :: (front ++ '>' :: ':' :: tail) := by
  obtain ⟨entry, rest, rfl⟩ := List.exists_cons_of_ne_nil h
  refine ⟨entry.1.toList, ?_⟩
  cases rest with
  | nil => exact ⟨_, by rw [summaryPieces, List.flatMap_singleton, writtenEntry]⟩
  | cons next rest =>
    rw [summaryPieces, List.flatMap_cons, writtenEntry]
    simp only [List.cons_append, List.append_assoc]
    exact ⟨_, rfl⟩

theorem trim_summary (total : Nat) {entries : List (String × Nat)} (h : entries ≠ []) :
    trim (String.intercalate ", " (entries.map (Counts.summaryEntry total)))
      = String.intercalate ", " (entries.map (Counts.summaryEntry total)) := by
  obtain ⟨front, tail, hfront⟩ := exists_flatMap_summaryPieces_eq total h
  have hlast := getLast?_flatMap_summaryPieces total h
  rw [← String.toList_inj, trim, String.toList_ofList, toList_intercalate_summaryEntry]
  refine trimChars_eq_self ?_ ?_
  · rw [hfront]
    rintro c ⟨⟩
    decide
  · rw [hlast]
    rintro c ⟨⟩
    decide

theorem isRanked_summary (total : Nat) {entries : List (String × Nat)} (h : entries ≠ []) :
    isRanked (String.intercalate ", " (entries.map (Counts.summaryEntry total))).toList = true := by
  obtain ⟨front, tail, hfront⟩ := exists_flatMap_summaryPieces_eq total h
  rw [toList_intercalate_summaryEntry, hfront, isRanked, ← List.cons_append, hasMark_append]
  simp

/-! ## What a summary reads as -/

namespace Counts

variable {c : Counts}

/-- The outcomes of a summary that are one word. -/
def leadingWords (c : Counts) : List (String × Nat) :=
  c.leaders.filter fun entry => IsWord entry.1.toList

theorem readHistogram_summary_eq (hne : c.entries ≠ [])
    (hplain : ∀ entry ∈ c.entries, IsPlain entry.1.toList) (total : Nat) :
    readHistogram (c.summary total) =
      match gatherEntries .empty (c.leadingWords.map toRanked) with
      | .error e => .error e
      | .ok h => if h.isEmpty then .error .unrecognizedText else .ok h := by
  have hleaders : c.leaders ≠ [] := leaders_ne_nil hne
  have hempty : ¬c.isEmpty = true := by
    rw [isEmpty, List.isEmpty_iff]
    exact hne
  rw [summary, if_neg hempty, readHistogram, trim_summary total hleaders,
    if_pos (isRanked_summary total hleaders), readRanked,
    rankedEntries_summary total fun entry he => hplain entry (mem_of_mem_leaders he)]
  rfl

/-- **The words of a summary make a histogram**, in their order and with their counts. -/
theorem readHistogram_summary (hplain : ∀ entry ∈ c.entries, IsPlain entry.1.toList)
    (hcounts : ∀ entry ∈ c.entries, entry.2 ≤ maxUnsigned64) (hwords : c.leadingWords ≠ [])
    (total : Nat) :
    ∃ h, readHistogram (c.summary total) = .ok h ∧ h.entries = c.leadingWords := by
  have hsub : c.leadingWords.Sublist c.leaders := List.filter_sublist
  have hmem : ∀ entry ∈ c.leadingWords, entry ∈ c.entries := fun entry he =>
    mem_of_mem_leaders (hsub.subset he)
  have hne : c.entries ≠ [] := by
    obtain ⟨entry, he⟩ := List.exists_mem_of_ne_nil _ hwords
    exact List.ne_nil_of_mem (hmem entry he)
  obtain ⟨h, hgather, hentries⟩ := gatherEntries_of_nodup .empty
    (fun entry he => hcounts entry (hmem entry he)) (c.nodup_leaders.sublist (hsub.map _))
  have hfull : ¬h.isEmpty = true := by
    rw [Histogram.isEmpty, hentries, List.isEmpty_iff]
    exact hwords
  refine ⟨h, ?_, hentries⟩
  rw [readHistogram_summary_eq hne hplain, hgather]
  exact if_neg hfull

theorem leadingWords_eq_leaders (hwords : ∀ entry ∈ c.entries, IsWord entry.1.toList) :
    c.leadingWords = c.leaders := by
  rw [leadingWords, List.filter_eq_self]
  intro entry he
  exact decide_eq_true (hwords entry (mem_of_mem_leaders he))

/-- **A summary of words reads as the head of the ranking**, whatever total its shares are of. -/
theorem readHistogram_summary_of_words (hne : c.entries ≠ [])
    (hwords : ∀ entry ∈ c.entries, IsWord entry.1.toList)
    (hcounts : ∀ entry ∈ c.entries, entry.2 ≤ maxUnsigned64) (total : Nat) :
    ∃ h, readHistogram (c.summary total) = .ok h ∧
      h.entries = c.ranked.take (min 5 c.size) := by
  have hall := leadingWords_eq_leaders hwords
  have hsome : c.leadingWords ≠ [] := by
    rw [hall]
    exact leaders_ne_nil hne
  rw [← leaders_eq_take_min, ← hall]
  exact readHistogram_summary (fun entry he => (hwords entry he).isPlain) hcounts hsome total

/-- Six words of different lengths. -/
def sixWords : List (String × Nat) :=
  [("111", 0), ("010", 7), ("1", 18446744073709551615), ("11", 0), ("001", 9), ("00", 7)]

/-- Six words, the greatest number among them, with shares of a total that is less than it. -/
theorem readHistogram_summary_of_six_words :
    (ofList sixWords).entries ≠ [] ∧
      (∀ entry ∈ (ofList sixWords).entries, IsWord entry.1.toList) ∧
      (∀ entry ∈ (ofList sixWords).entries, entry.2 ≤ maxUnsigned64) ∧
      ∃ h, readHistogram ((ofList sixWords).summary 3) = .ok h ∧
        h.entries
          = [("1", 18446744073709551615), ("001", 9), ("00", 7), ("010", 7), ("11", 0)] := by
  have hne : (ofList sixWords).entries ≠ [] := by decide
  have hwords : ∀ entry ∈ (ofList sixWords).entries, IsWord entry.1.toList := by decide
  have hcounts : ∀ entry ∈ (ofList sixWords).entries, entry.2 ≤ maxUnsigned64 := by decide
  obtain ⟨h, hread, hentries⟩ := readHistogram_summary_of_words hne hwords hcounts 3
  have hranked : [("1", 18446744073709551615), ("001", 9), ("00", 7), ("010", 7), ("11", 0),
      ("111", 0)] = (ofList sixWords).ranked := eq_ranked_of_pairwise (by decide) (by decide)
  rw [← hranked] at hentries
  exact ⟨hne, hwords, hcounts, h, hread, hentries⟩

/-- **A summary without words is no histogram.** -/
theorem readHistogram_summary_of_no_words (hne : c.entries ≠ [])
    (hplain : ∀ entry ∈ c.entries, IsPlain entry.1.toList) (hwords : c.leadingWords = [])
    (total : Nat) : readHistogram (c.summary total) = .error .unrecognizedText := by
  rw [readHistogram_summary_eq hne hplain, hwords]
  rfl

end Counts

end QuantumBlocks
