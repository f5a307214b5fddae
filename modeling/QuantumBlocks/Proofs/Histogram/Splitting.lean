import QuantumBlocks.Proofs.Histogram.Pieces
import Mathlib.Algebra.GroupWithZero.Nat

/-!
# Summary lines split at their bars

A summary line is read from left to right, an entry being looked for after each bar. It may as
well be split at all its bars at once: each piece after the first gives the entry that it begins
with, if it begins with one, and the entries are set one after the other.

The second reading is said here by relations of its own, without the reader: what it is for a
piece to begin with an entry (`BeginsWith`), which entries are kept (`Keeps`), which digits write
a count (`WritesCount`) and what setting entries comes to (`Sets`).

* `rankedEntries_eq_filterMap` — the entries of a line are those of its pieces
* `beginsWith_iff`, `keeps_iff`, `sets_iff` — the reader follows the relations
* `readHistogram_eq_iff_readsByPieces` — both readings come to the same result
-/

namespace QuantumBlocks

open Text Number

/-! ## The reading by pieces -/

/-- A piece begins with an entry: one bit or more, the mark, any blanks, and one decimal digit or
more, up to where no digit follows. -/
inductive BeginsWith : List Char → RankedEntry → Prop where
  | intro {label blanks count rest : List Char} (hlabel : label ≠ [])
    (hbits : ∀ c ∈ label, c = '0' ∨ c = '1') (hblanks : ∀ c ∈ blanks, isBlank c = true)
    (hcount : count ≠ []) (hdigits : ∀ c ∈ count, isDecimalDigit c = true)
    (hrest : ∀ c ∈ rest.head?, isDecimalDigit c = false) :
    BeginsWith (label ++ '>' :: ':' :: (blanks ++ (count ++ rest))) ⟨label, count⟩

/-- The entries that pieces begin with, in order; pieces that begin with none are passed over. -/
inductive Keeps : List (List Char) → List RankedEntry → Prop where
  | nil : Keeps [] []
  | kept {piece : List Char} {entry : RankedEntry} {pieces : List (List Char)}
    {entries : List RankedEntry} (h : BeginsWith piece entry) (hrest : Keeps pieces entries) :
    Keeps (piece :: pieces) (entry :: entries)
  | dropped {piece : List Char} {pieces : List (List Char)} {entries : List RankedEntry}
    (h : ∀ entry, ¬BeginsWith piece entry) (hrest : Keeps pieces entries) :
    Keeps (piece :: pieces) entries

/-- Digits write a count: they are digits of ASCII and their number is below `2 ^ 64`. -/
def WritesCount (digits : List Char) (n : Nat) : Prop :=
  digits ≠ [] ∧ (∀ c ∈ digits, isAsciiDigit c = true) ∧ readDigits digits = n ∧ n < 2 ^ 64

/-- What setting entries one after the other comes to: a histogram, or the first entry whose
digits write no count. -/
inductive Sets : Histogram → List RankedEntry → Except HistogramError Histogram → Prop where
  | done {h : Histogram} : Sets h [] (.ok h)
  | set {h : Histogram} {entry : RankedEntry} {entries : List RankedEntry} {n : Nat}
    {result : Except HistogramError Histogram} (hcount : WritesCount entry.count n)
    (hrest : Sets (h.insert (String.ofList entry.label) n) entries result) :
    Sets h (entry :: entries) result
  | refused {h : Histogram} {entry : RankedEntry} {entries : List RankedEntry}
    (hcount : ∀ n, ¬WritesCount entry.count n) :
    Sets h (entry :: entries)
      (.error (.invalidCount (String.ofList entry.label) (String.ofList entry.count)))

/-- What pieces are read as: without an entry they are not recognized, and otherwise their entries
are set in an empty histogram. -/
def ReadsByPieces (pieces : List (List Char)) (result : Except HistogramError Histogram) : Prop :=
  ∃ entries, Keeps pieces entries ∧
    (entries = [] ∧ result = .error .unrecognizedText ∨
      entries ≠ [] ∧ Sets .empty entries result)

/-! ## Pieces of a text -/

/-- A text is its first piece, and a bar in front of each of the others; no piece has a bar. -/
theorem exists_splitOn_eq (cs : List Char) :
    ∃ first pieces, cs.splitOn '|' = first :: pieces ∧
      cs = first ++ pieces.flatMap (fun piece => '|' :: piece) ∧
      '|' ∉ first ∧ ∀ piece ∈ pieces, '|' ∉ piece := by
  induction cs with
  | nil => exact ⟨[], [], rfl, rfl, by simp, by simp⟩
  | cons c cs ih =>
    obtain ⟨first, pieces, hsplit, hcs, hfirst, hpieces⟩ := ih
    rw [List.splitOn_cons_eq_if_modifyHead, hsplit]
    by_cases hc : c = '|'
    · refine ⟨[], first :: pieces, ?_, ?_, by simp, ?_⟩
      · simp [hc]
      · simp [hc, ← hcs]
      · rw [List.forall_mem_cons]
        exact ⟨hfirst, hpieces⟩
    · refine ⟨c :: first, pieces, ?_, ?_, ?_, hpieces⟩
      · simp [hc]
      · simp [← hcs]
      · simp [hfirst, Ne.symm hc]

/-- **The entries of a line are those of its pieces**, the first piece apart. -/
theorem rankedEntries_eq_filterMap (cs : List Char) :
    rankedEntries cs = (cs.splitOn '|').tail.filterMap readPiece? := by
  obtain ⟨first, pieces, hsplit, hcs, hfirst, hpieces⟩ := exists_splitOn_eq cs
  have hskip := rankedEntries_skip hfirst (pieces.flatMap fun piece => '|' :: piece)
  rw [← hcs] at hskip
  rw [hskip, rankedEntries_pieces hpieces, hsplit, List.tail_cons]

/-! ## Pieces and blanks -/

theorem readPiece?_eq_some_iff {piece : List Char} {entry : RankedEntry} :
    readPiece? piece = some entry ↔
      piece.takeWhile isBit = entry.label ∧ entry.label ≠ [] ∧
      ∃ tail, piece.dropWhile isBit = '>' :: ':' :: tail ∧
        (dropBlank tail).takeWhile isDecimalDigit = entry.count ∧ entry.count ≠ [] := by
  rw [readPiece?, Option.map_eq_some_iff]
  constructor
  · rintro ⟨⟨other, later⟩, hfound, rfl⟩
    obtain ⟨hlabel, hne, tail, hmark, hcount, hcount', -⟩ := rankedEntry?_eq_some_iff.mp hfound
    exact ⟨hlabel, hne, tail, hmark, hcount, hcount'⟩
  · rintro ⟨hlabel, hne, tail, hmark, hcount, hcount'⟩
    exact ⟨(entry, _), rankedEntry?_eq_some_iff.mpr
      ⟨hlabel, hne, tail, hmark, hcount, hcount', rfl⟩, rfl⟩

/-- A decimal digit of any script is no blank. -/
theorem isBlank_of_isDecimalDigit {c : Char} (h : isDecimalDigit c = true) :
    isBlank c = false := by
  have hzeros : ∀ z ∈ digitZeros, 0x30 ≤ z ∧ (z + 10 ≤ 0x85 ∨ 0xA0 < z) ∧
      (z + 10 ≤ 0x1680 ∨ 0x1680 < z) ∧ (z + 10 ≤ 0x2000 ∨ 0x205F < z) ∧
      (z + 10 ≤ 0x3000 ∨ 0x3000 < z) := by decide
  rw [isDecimalDigit, List.any_eq_true] at h
  obtain ⟨z, hz, hc⟩ := h
  simp only [Bool.and_eq_true, decide_eq_true_eq] at hc
  have hz := hzeros z hz
  simp only [isBlank, Bool.or_eq_false_iff, Bool.and_eq_false_iff, decide_eq_false_iff_not,
    beq_eq_false_iff_ne, ne_eq]
  omega

section Blanks

variable (back : Run isBlank)

/-- What holds of every blank holds of the first of a run. -/
theorem head?_blanks {p : Char → Prop} (h : ∀ c, isBlank c = true → p c) :
    ∀ c ∈ back.1.head?, p c :=
  fun c hc => h c (back.2 c (List.mem_of_mem_head? hc))

/-- Blanks at the end of a piece change nothing. -/
theorem readPiece?_append_blanks (piece : List Char) :
    readPiece? (piece ++ back.1) = readPiece? piece := by
  have hbit : ∀ c ∈ back.1.head?, isBit c = false := head?_blanks back fun c hc => by
    by_contra hbit
    simp only [Bool.not_eq_false, isBit, Bool.or_eq_true, decide_eq_true_eq] at hbit
    rcases hbit with rfl | rfl
    · exact absurd hc (by decide)
    · exact absurd hc (by decide)
  have hdigit : ∀ c ∈ back.1.head?, isDecimalDigit c = false := head?_blanks back fun c hc => by
    by_contra hdigit
    rw [isBlank_of_isDecimalDigit (Bool.not_eq_false _ ▸ hdigit)] at hc
    cases hc
  have hmark : ∀ c ∈ back.1.head?, c ≠ '>' ∧ c ≠ ':' := head?_blanks back fun c hc => by
    constructor
    · rintro rfl
      exact absurd hc (by decide)
    · rintro rfl
      exact absurd hc (by decide)
  have hdigits (t : List Char) : (dropBlank (t ++ back.1)).takeWhile isDecimalDigit
      = (dropBlank t).takeWhile isDecimalDigit := by
    rw [dropBlank, dropBlank, List.dropWhile_append]
    split
    · next hnone =>
      rw [List.isEmpty_iff.mp hnone, List.dropWhile_eq_nil_iff.mpr back.2]
    · exact takeWhile_append_of_head hdigit
  refine Option.ext fun entry => ?_
  rw [readPiece?_eq_some_iff, readPiece?_eq_some_iff, takeWhile_append_of_head hbit,
    dropWhile_append_of_head hbit]
  constructor
  · rintro ⟨hlabel, hne, tail, htail, hcount, hcount'⟩
    obtain ⟨t, ht, rfl⟩ := (append_eq_mark_iff hmark).mp htail
    exact ⟨hlabel, hne, t, ht, (hdigits t).symm.trans hcount, hcount'⟩
  · rintro ⟨hlabel, hne, t, ht, hcount, hcount'⟩
    exact ⟨hlabel, hne, t ++ back.1, (append_eq_mark_iff hmark).mpr ⟨t, ht, rfl⟩,
      (hdigits t).trans hcount, hcount'⟩

/-- Blanks at the end of a text change none of its entries. -/
theorem rankedEntries_append_blanks (cs : List Char) :
    rankedEntries (cs ++ back.1) = rankedEntries cs := by
  obtain ⟨first, pieces, -, rfl, hfirst, hpieces⟩ := exists_splitOn_eq cs
  have hback : '|' ∉ back.1 := fun hm => absurd (back.2 _ hm) (by decide)
  -- The blanks come after the last piece, which is the first one if there is no bar.
  rcases List.eq_nil_or_concat pieces with rfl | ⟨front, last, rfl⟩
  · rw [List.flatMap_nil, List.append_nil, rankedEntries_skip hfirst, ← List.append_nil back.1,
      rankedEntries_skip hback, ← List.append_nil first, rankedEntries_skip hfirst]
  · rw [List.concat_eq_append, List.forall_mem_append, List.forall_mem_singleton] at hpieces
    have hlonger : ∀ piece ∈ front ++ [last ++ back.1], '|' ∉ piece := by
      rw [List.forall_mem_append, List.forall_mem_singleton, List.mem_append, not_or]
      exact ⟨hpieces.1, hpieces.2, hback⟩
    have hshift : (front ++ [last]).flatMap (fun piece => '|' :: piece) ++ back.1
        = (front ++ [last ++ back.1]).flatMap fun piece => '|' :: piece := by simp
    rw [List.concat_eq_append, List.append_assoc, rankedEntries_skip hfirst,
      rankedEntries_skip hfirst, hshift, rankedEntries_pieces hlonger, rankedEntries_pieces,
      List.filterMap_append, List.filterMap_append]
    · simp [List.filterMap_cons, readPiece?_append_blanks]
    · rw [List.forall_mem_append, List.forall_mem_singleton]
      exact hpieces

end Blanks

/-- A text is what is left of it after trimming, with blanks around. -/
theorem exists_trimChars_eq (cs : List Char) :
    ∃ front back : Run isBlank, cs = front.1 ++ (trimChars cs ++ back.1) := by
  refine ⟨⟨cs.takeWhile isBlank, fun c hc => List.mem_takeWhile_imp hc⟩,
    ⟨((dropBlank cs).reverse.takeWhile isBlank).reverse, ?_⟩, ?_⟩
  · intro c hc
    exact List.mem_takeWhile_imp (List.mem_reverse.mp hc)
  · have hback : trimChars cs ++ ((dropBlank cs).reverse.takeWhile isBlank).reverse
        = dropBlank cs := by
      rw [trimChars, dropBlank, ← List.reverse_append, List.takeWhile_append_dropWhile,
        List.reverse_reverse]
    simp only [hback]
    exact List.takeWhile_append_dropWhile.symm

/-- Trimming a text changes none of its entries. -/
theorem rankedEntries_trimChars (cs : List Char) :
    rankedEntries (trimChars cs) = rankedEntries cs := by
  obtain ⟨front, back, hcs⟩ := exists_trimChars_eq cs
  have hfront : '|' ∉ front.1 := fun hm => absurd (front.2 _ hm) (by decide)
  have hsame : rankedEntries (front.1 ++ (trimChars cs ++ back.1))
      = rankedEntries (trimChars cs) := by
    rw [rankedEntries_skip hfront, rankedEntries_append_blanks]
  rw [← hsame, ← hcs]

/-! ## The reader and the relations -/

theorem isBit_iff {c : Char} : isBit c = true ↔ c = '0' ∨ c = '1' := by
  simp [isBit]

/-- **The entry of a piece is the one it begins with.** -/
theorem beginsWith_iff {piece : List Char} {entry : RankedEntry} :
    BeginsWith piece entry ↔ readPiece? piece = some entry := by
  rw [readPiece?_eq_some_iff]
  constructor
  · rintro ⟨hlabel, hbits, hblanks, hcount, hdigits, hrest⟩
    rename_i label blanks count rest
    have hall : ∀ c ∈ label, isBit c = true := fun c hc => isBit_iff.mpr (hbits c hc)
    have hmark : ∀ c ∈ ('>' :: ':' :: (blanks ++ (count ++ rest))).head?, isBit c = false := by
      rintro c ⟨⟩
      decide
    have hdrop : dropBlank (blanks ++ (count ++ rest)) = count ++ rest := by
      obtain ⟨d, ds, rfl⟩ := List.exists_cons_of_ne_nil hcount
      rw [dropBlank, List.dropWhile_append_of_pos hblanks, List.cons_append,
        List.dropWhile_cons_of_neg]
      rw [isBlank_of_isDecimalDigit (hdigits d List.mem_cons_self)]
      decide
    refine ⟨?_, hlabel, blanks ++ (count ++ rest), ?_, ?_, hcount⟩
    · rw [takeWhile_append_of_head hmark]
      exact List.takeWhile_eq_self_iff.mpr hall
    · rw [dropWhile_append_of_head hmark, List.dropWhile_eq_nil_iff.mpr hall]
      rfl
    · rw [hdrop, takeWhile_append_of_head hrest]
      exact List.takeWhile_eq_self_iff.mpr hdigits
  · obtain ⟨label, count⟩ := entry
    dsimp only
    rintro ⟨hlabel, hne, tail, hmark, hcount, hcount'⟩
    have hpiece : piece = label ++ '>' :: ':' :: (tail.takeWhile isBlank
        ++ (count ++ (dropBlank tail).dropWhile isDecimalDigit)) := by
      rw [← hcount, List.takeWhile_append_dropWhile, dropBlank, List.takeWhile_append_dropWhile,
        ← hmark, ← hlabel, List.takeWhile_append_dropWhile]
    rw [hpiece]
    refine .intro hne ?_ (fun c hc => List.mem_takeWhile_imp hc) hcount' ?_ ?_
    · intro c hc
      rw [← hlabel] at hc
      exact isBit_iff.mp (List.mem_takeWhile_imp hc)
    · intro c hc
      rw [← hcount] at hc
      exact List.mem_takeWhile_imp hc
    · intro c hc
      have hhead := List.head?_dropWhile_not isDecimalDigit (dropBlank tail)
      rw [hc] at hhead
      simpa using hhead

/-- **The entries that are kept are those of the pieces.** -/
theorem keeps_iff {pieces : List (List Char)} {entries : List RankedEntry} :
    Keeps pieces entries ↔ pieces.filterMap readPiece? = entries := by
  constructor
  · intro h
    induction h with
    | nil => rfl
    | kept hpiece _ ih => rw [List.filterMap_cons_some (beginsWith_iff.mp hpiece), ih]
    | dropped hpiece _ ih =>
      rw [List.filterMap_cons_none, ih]
      rw [Option.eq_none_iff_forall_ne_some]
      exact fun entry hentry => hpiece entry (beginsWith_iff.mpr hentry)
  · rintro rfl
    induction pieces with
    | nil => exact .nil
    | cons piece pieces ih =>
      cases hentry : readPiece? piece with
      | none =>
        rw [List.filterMap_cons_none hentry]
        refine .dropped (fun entry hbegins => ?_) ih
        rw [beginsWith_iff.mp hbegins] at hentry
        cases hentry
      | some entry =>
        rw [List.filterMap_cons_some hentry]
        exact .kept (beginsWith_iff.mpr hentry) ih

theorem writesCount_iff {digits : List Char} {n : Nat} :
    WritesCount digits n ↔ readCount? digits = some n := by
  have hmax : n ≤ maxUnsigned64 ↔ n < 2 ^ 64 := by
    rw [show maxUnsigned64 = 2 ^ 64 - 1 from rfl]
    omega
  rw [readCount?, Option.filter_eq_some_iff, decide_eq_true_eq, hmax]
  constructor
  · rintro ⟨hne, hdigits, rfl, hn⟩
    exact ⟨readNatural?_of_isAsciiDigit hne hdigits, hn⟩
  · rintro ⟨hread, hn⟩
    rw [readNatural?] at hread
    split at hread
    · next h => exact ⟨h.1, List.all_eq_true.mp h.2, Option.some.inj hread, hn⟩
    · cases hread

/-- **Setting entries comes to what the reader gathers.** -/
theorem sets_iff {h : Histogram} {entries : List RankedEntry}
    {result : Except HistogramError Histogram} :
    Sets h entries result ↔ gatherEntries h entries = result := by
  constructor
  · intro hsets
    induction hsets with
    | done => rfl
    | set hcount _ ih => rw [gatherEntries, writesCount_iff.mp hcount, ← ih]
    | refused hcount =>
      have hnone : readCount? _ = none := Option.eq_none_iff_forall_ne_some.mpr
        fun n hn => hcount n (writesCount_iff.mpr hn)
      rw [gatherEntries, hnone]
  · rintro rfl
    induction entries generalizing h with
    | nil => exact .done
    | cons entry entries ih =>
      rw [gatherEntries]
      cases hcount : readCount? entry.count with
      | none =>
        refine .refused fun n hn => ?_
        rw [writesCount_iff.mp hn] at hcount
        cases hcount
      | some n => exact .set (writesCount_iff.mpr hcount) ih

theorem isEmpty_gatherEntries {entries : List RankedEntry} {h g : Histogram}
    (hstart : h.isEmpty = false) (hgather : gatherEntries h entries = .ok g) :
    g.isEmpty = false := by
  induction entries generalizing h with
  | nil =>
    cases hgather
    exact hstart
  | cons entry entries ih =>
    rw [gatherEntries] at hgather
    split at hgather
    · exact ih (isEmpty_insert _ _ _) hgather
    · cases hgather

/-- Setting one entry or more gives no empty histogram. -/
theorem isEmpty_of_gatherEntries {entries : List RankedEntry} (hne : entries ≠ [])
    {g : Histogram} (hgather : gatherEntries .empty entries = .ok g) : g.isEmpty = false := by
  obtain ⟨entry, entries, rfl⟩ := List.exists_cons_of_ne_nil hne
  rw [gatherEntries] at hgather
  split at hgather
  · exact isEmpty_gatherEntries (isEmpty_insert _ _ _) hgather
  · cases hgather

/-- A line is read as its pieces are. -/
theorem readRanked_eq_iff {s : String} {result : Except HistogramError Histogram} :
    readRanked s = result ↔ ReadsByPieces (s.toList.splitOn '|').tail result := by
  have hreads : ReadsByPieces (s.toList.splitOn '|').tail result ↔
      rankedEntries s.toList = [] ∧ result = .error .unrecognizedText ∨
        rankedEntries s.toList ≠ [] ∧ gatherEntries .empty (rankedEntries s.toList) = result := by
    rw [rankedEntries_eq_filterMap]
    constructor
    · rintro ⟨entries, hkeeps, hresult⟩
      rw [keeps_iff.mp hkeeps, ← sets_iff]
      exact hresult
    · intro hresult
      refine ⟨_, keeps_iff.mpr rfl, ?_⟩
      rw [sets_iff]
      exact hresult
  rw [hreads, readRanked]
  by_cases hnone : rankedEntries s.toList = []
  · simp only [hnone, gatherEntries, ne_eq, not_true_eq_false, false_and, or_false, true_and]
    exact eq_comm
  · simp only [hnone, false_and, ne_eq, not_false_eq_true, true_and, false_or]
    split
    · next hgather => rw [hgather]
    · next hgather =>
      rw [if_neg (by simp [isEmpty_of_gatherEntries hnone hgather]), hgather]

/-! ## Texts that are read as lines -/

theorem hasMark_iff {cs : List Char} : hasMark cs = true ↔ ['>', ':'] <:+: cs := by
  fun_induction hasMark cs with
  | case1 rest => exact iff_of_true rfl ⟨[], rest, rfl⟩
  | case2 c rest hfirst ih =>
    rw [ih, List.infix_cons_iff]
    constructor
    · exact Or.inr
    · rintro (⟨tail, htail⟩ | hrest)
      · cases htail
        exact absurd rfl (hfirst tail rfl)
      · exact hrest
  | case3 => simp

/-- A text is written as a summary line: trimmed, it does not begin with a brace, and it has a bar
and the mark of an entry. -/
structure IsLine (s : String) : Prop where
  not_brace : (trim s).toList.head? ≠ some '\x7b'
  bar : '|' ∈ (trim s).toList
  mark : ['>', ':'] <:+: (trim s).toList

theorem isLine_iff {s : String} : IsLine s ↔ isRanked (trim s).toList = true := by
  have hranked : isRanked (trim s).toList = true ↔ (trim s).toList.head? ≠ some '\x7b' ∧
      '|' ∈ (trim s).toList ∧ hasMark (trim s).toList = true := by
    simp [isRanked, and_assoc]
  rw [hranked, hasMark_iff]
  exact ⟨fun h => ⟨h.not_brace, h.bar, h.mark⟩, fun h => ⟨h.1, h.2.1, h.2.2⟩⟩

/-- **A summary line is read as its pieces are.** The text is split at its bars: the pieces after
the first that begin with an entry are kept, their entries are set in order, the first whose digits
write no number of 64 bits fails, and without a piece that is kept nothing is recognized. -/
theorem readHistogram_eq_iff_readsByPieces {s : String} (h : IsLine s)
    (result : Except HistogramError Histogram) :
    readHistogram s = result ↔ ReadsByPieces (s.toList.splitOn '|').tail result := by
  have htrim : readRanked (trim s) = readRanked s := by
    rw [readRanked, readRanked, trim, String.toList_ofList, rankedEntries_trimChars]
  rw [readHistogram, if_pos (isLine_iff.mp h), htrim, readRanked_eq_iff]

/-- Pieces that break off, bars next to each other and a blank of another script; and a digit of
another script, which is taken for a digit and then refused. -/
theorem readHistogram_eq_iff_readsByPieces_broken :
    (IsLine " |10>:7, |x>: 3 ||01>:\u3000 2 |1 |0>1\n" ∧
      readHistogram " |10>:7, |x>: 3 ||01>:\u3000 2 |1 |0>1\n"
        = .ok ⟨[("10", 7), ("01", 2)], by decide⟩) ∧
    (IsLine "|0>: 1, |1>: 1\u0663 (x), |1>: y" ∧
      readHistogram "|0>: 1, |1>: 1\u0663 (x), |1>: y"
        = .error (.invalidCount "1" "1\u0663")) := by
  constructor
  · have hline : IsLine " |10>:7, |x>: 3 ||01>:\u3000 2 |1 |0>1\n" := isLine_iff.mpr (by decide)
    refine ⟨hline, (readHistogram_eq_iff_readsByPieces hline _).mpr ?_⟩
    exact ⟨[⟨['1', '0'], ['7']⟩, ⟨['0', '1'], ['2']⟩], keeps_iff.mpr rfl,
      Or.inr ⟨List.cons_ne_nil _ _, sets_iff.mpr rfl⟩⟩
  · have hline : IsLine "|0>: 1, |1>: 1\u0663 (x), |1>: y" := isLine_iff.mpr (by decide)
    refine ⟨hline, (readHistogram_eq_iff_readsByPieces hline _).mpr ?_⟩
    exact ⟨[⟨['0'], ['1']⟩, ⟨['1'], ['1', '\u0663']⟩], keeps_iff.mpr rfl,
      Or.inr ⟨List.cons_ne_nil _ _, sets_iff.mpr rfl⟩⟩

end QuantumBlocks
