import QuantumBlocks.Proofs.Histogram.Summary
import QuantumBlocks.Proofs.Json.Members
import Mathlib.Data.List.Forall2

/-!
# The encodings of a histogram

Labels with counts are written in three ways: as a JSON object, as the same with apostrophes for
quotes, and as a summary line. Blanks may stand between the tokens of an object and around any of
the three, and a summary line may give the share of each count.

* `readMapping_mappingText` — what an object reads as, with quotes or apostrophes
* `rankedEntries_lineText` — the entries of a summary line
* `readHistogram_write` — all encodings of the same pairs give the same histogram
-/

namespace QuantumBlocks

open Text Number Json

/-! ## Written pairs -/

/-- The blanks around the tokens of a member. -/
structure Spacing where
  beforeName : Run isSpace
  afterName : Run isSpace
  beforeCount : Run isSpace
  afterCount : Run isSpace

/-- A label and its count as a member of an object, the label in `quote`s. -/
def memberText (quote : Char) (space : Spacing) (entry : String × Nat) : List Char :=
  space.beforeName.1 ++ quote :: (entry.1.toList ++ quote :: (space.afterName.1 ++ ':' ::
    (space.beforeCount.1 ++ (Nat.toDigits 10 entry.2 ++ space.afterCount.1))))

/-- An object of labels and counts, each member with blanks of its own. -/
def mappingText (quote : Char) (space : Nat → Spacing) (pairs : List (String × Nat)) :
    List Char :=
  '\x7b' :: ([','].intercalate (pairs.mapIdx fun k entry => memberText quote (space k) entry)
    ++ ['\x7d'])

/-- A percentage in parentheses, in which anything but a bar may stand. -/
structure Share where
  before : Run isSpace
  amount : Run fun c => c != '|'

/-- The share that is written after a count, if any. -/
def Share.text : Option Share → List Char
  | none => []
  | some share => share.before.1 ++ '(' :: (share.amount.1 ++ ['%', ')'])

/-- A label and its count as an entry of a summary line. -/
def entryText (share : Option Share) (entry : String × Nat) : List Char :=
  '|' :: writtenEntry entry.1.toList entry.2 (Share.text share)

/-- A summary line, each entry with or without its share. -/
def lineText (share : Nat → Option Share) (pairs : List (String × Nat)) : List Char :=
  [',', ' '].intercalate (pairs.mapIdx fun k entry => entryText (share k) entry)

/-- A way to write labels with counts. -/
inductive Encoding where
  | quoted (space : Nat → Spacing)
  | apostrophes (space : Nat → Spacing)
  | line (share : Nat → Option Share)

/-- The text of labels with counts. -/
def Encoding.write : Encoding → List (String × Nat) → List Char
  | .quoted space => mappingText '\"' space
  | .apostrophes space => mappingText '\'' space
  | .line share => lineText share

/-- A label of bits with a count of 64 bits. -/
def IsTally (entry : String × Nat) : Prop := IsWord entry.1.toList ∧ entry.2 ≤ maxUnsigned64

instance (entry : String × Nat) : Decidable (IsTally entry) := inferInstanceAs (Decidable (_ ∧ _))

/-! ## Reading an object -/

theorem isUnescaped_of_isBit {c : Char} (h : isBit c = true) : IsUnescaped c := by
  simp only [isBit, Bool.or_eq_true, decide_eq_true_eq] at h
  rcases h with rfl | rfl
  · exact ⟨by decide, by decide, by decide⟩
  · exact ⟨by decide, by decide, by decide⟩

/-- A label that stands between quotes, with its count, is read as an entry of a histogram. -/
def WritesEntry (written entry : String × Nat) : Prop :=
  Spells written.1.toList entry.1 ∧ written.2 = entry.2 ∧ entry.2 ≤ maxUnsigned64

theorem IsTally.writesEntry {entry : String × Nat} (h : IsTally entry) :
    WritesEntry entry entry := by
  have hspells : Spells entry.1.toList (String.ofList entry.1.toList) := spells_word fun c hc =>
    isUnescaped_of_isBit (List.all_eq_true.mp h.1.2 c hc)
  rw [String.ofList_toList] at hspells
  exact ⟨hspells, rfl, h.2⟩

theorem forall₂_writesEntry {pairs : List (String × Nat)} (h : ∀ e ∈ pairs, IsTally e) :
    List.Forall₂ WritesEntry pairs pairs :=
  List.forall₂_same.mpr fun e he => (h e he).writesEntry

/-- The members of an object after its first one, each behind a comma. -/
def laterText (quote : Char) (space : Nat → Spacing) : List (String × Nat) → List Char
  | [] => []
  | entry :: pairs =>
    ',' :: (memberText quote (space 0) entry ++ laterText quote (fun k => space (k + 1)) pairs)

theorem intercalate_memberText (quote : Char) (space : Nat → Spacing) (entry : String × Nat)
    (pairs : List (String × Nat)) :
    [','].intercalate ((entry :: pairs).mapIdx fun k e => memberText quote (space k) e)
      = memberText quote (space 0) entry ++ laterText quote (fun k => space (k + 1)) pairs := by
  induction pairs generalizing entry space with
  | nil => simp [laterText]
  | cons next pairs ih =>
    have hnext := ih (fun k => space (k + 1)) next
    rw [List.mapIdx_cons] at hnext
    rw [List.mapIdx_cons, List.mapIdx_cons, List.intercalate_cons_cons, laterText, ← hnext,
      List.append_assoc]
    rfl

theorem mappingText_cons (quote : Char) (space : Nat → Spacing) (entry : String × Nat)
    (pairs : List (String × Nat)) :
    mappingText quote space (entry :: pairs)
      = '\x7b' :: (memberText quote (space 0) entry
        ++ (laterText quote (fun k => space (k + 1)) pairs ++ ['\x7d'])) := by
  rw [mappingText, intercalate_memberText, List.append_assoc]

theorem memberText_append (quote : Char) (space : Spacing) (entry : String × Nat)
    (rest : List Char) :
    memberText quote space entry ++ rest
      = space.beforeName.1 ++ quote :: (entry.1.toList ++ quote :: (space.afterName.1 ++ ':' ::
        (space.beforeCount.1 ++ (Nat.toDigits 10 entry.2 ++ (space.afterCount.1 ++ rest))))) := by
  simp [memberText]

/-- What follows a member ends its count. -/
theorem endsNumber_laterText (before : Run isSpace) (quote : Char) (space : Nat → Spacing)
    (pairs : List (String × Nat)) (tail : List Char) :
    EndsNumber (before.1 ++ (laterText quote space pairs ++ '\x7d' :: tail)) := by
  cases pairs with
  | nil => exact endsNumber_run before (by decide) tail
  | cons entry pairs => exact endsNumber_run before (by decide) _

/-- Members that follow others are read up to the bracket. -/
theorem exists_readMembers_later {pairs found : List (String × Nat)}
    (hpairs : List.Forall₂ WritesEntry pairs found) (depth n : Nat) (space : Nat → Spacing)
    (before : Run isSpace) (tail : List Char) (done : List (String × Nat))
    (hdone : done.isEmpty = false) {cs : List Char}
    (hcs : cs = before.1 ++ (laterText '\"' space pairs ++ '\x7d' :: tail)) (h : cs.length < n) :
    ∃ h', readMembers (Decoder.unsigned64.fromText depth) n done cs h
      = .ok (done.reverse ++ found, ⟨tail, h'⟩) := by
  -- The blanks after a count stand in front of the next comma, so `before` changes too.
  induction hpairs generalizing space before done cs with
  | nil =>
    subst hcs
    rw [List.append_nil]
    exact exists_readMembers_close done h (nextMember_close _ _ before tail _)
  | @cons written entry pairs found hentry hpairs ih =>
    obtain ⟨hname, hsame, hmax⟩ := hentry
    rw [laterText, List.cons_append, List.append_assoc, memberText_append, hsame] at hcs
    subst hcs
    have hcount := fromText_unsigned64 hmax
      (endsNumber_laterText (space 0).afterCount '\"' (fun k => space (k + 1)) pairs tail) depth
      (space 0).beforeCount
    obtain ⟨hlen, hstep⟩ := exists_readMembers_member done h
      (nextMember_comma hname _ hdone before _ _ _) hcount
    obtain ⟨hlen', hrest⟩ := ih (fun k => space (k + 1)) (space 0).afterCount
      ((entry.1, entry.2) :: done) rfl rfl hlen
    refine ⟨hlen', ?_⟩
    rw [hstep]
    have hsplit : done.reverse ++ entry :: found
        = ((entry.1, entry.2) :: done).reverse ++ found := by simp
    rw [hsplit]
    exact hrest

/-- **The members of an object are read in their order**, with whatever blanks between tokens. -/
theorem exists_readMembers_mapping {pairs found : List (String × Nat)}
    (hpairs : List.Forall₂ WritesEntry pairs found) (space : Nat → Spacing) (depth : Nat)
    (front : Run isSpace) (tail : List Char) :
    ∃ h, (Decoder.members .unsigned64 Histogram.expected).fromText (depth + 1)
      (front.1 ++ (mappingText '\"' space pairs ++ tail)) = .ok (found, ⟨tail, h⟩) := by
  cases hpairs with
  | nil =>
    exact Decoder.fromText_members front fun n h =>
      exists_readMembers_close [] h (nextMember_close _ _ (.ofAll [] rfl) tail _)
  | @cons written entry pairs found hentry hpairs =>
    obtain ⟨hname, hsame, hmax⟩ := hentry
    rw [mappingText_cons, List.cons_append, List.append_assoc, List.append_assoc,
      memberText_append, hsame]
    refine Decoder.fromText_members front fun n h => ?_
    have hcount := fromText_unsigned64 hmax
      (endsNumber_laterText (space 0).afterCount '\"' (fun k => space (k + 1)) pairs tail) depth
      (space 0).beforeCount
    obtain ⟨hlen, hstep⟩ := exists_readMembers_member [] h (nextMember_first hname _ _ _ _) hcount
    obtain ⟨hlen', hrest⟩ := exists_readMembers_later hpairs depth n (fun k => space (k + 1))
      (space 0).afterCount tail [(entry.1, entry.2)] rfl rfl hlen
    refine ⟨hlen', ?_⟩
    rw [hstep]
    exact hrest

/-- An object with straight quotes is read as the entries of its members, set one after the
other. -/
theorem parse_mappingText {pairs found : List (String × Nat)}
    (hpairs : List.Forall₂ WritesEntry pairs found) (space : Nat → Spacing) :
    Histogram.decoder.parse (String.ofList (mappingText '\"' space pairs))
      = .ok (Histogram.ofList found) := by
  refine Decoder.parse_of_fromText (.ofAll [] rfl) ?_
  have hread := exists_readMembers_mapping hpairs space 126 (.ofAll [] rfl) []
  rw [List.append_nil] at hread
  rw [String.toList_ofList]
  exact Decoder.fromText_map Histogram.ofList hread

/-! ## Quotes for apostrophes -/

/-- A quote for an apostrophe, and every other character for itself. -/
def straighten (c : Char) : Char := if c = '\'' then '\"' else c

theorem straightenQuotes_ofList (cs : List Char) :
    straightenQuotes (String.ofList cs) = String.ofList (cs.map straighten) := by
  rw [straightenQuotes, String.toList_ofList]
  rfl

theorem map_straighten {cs : List Char} (h : '\'' ∉ cs) : cs.map straighten = cs := by
  have hsame : ∀ c ∈ cs, straighten c = c := by
    intro c hc
    have hne : c ≠ '\'' := fun heq => h (heq ▸ hc)
    exact if_neg hne
  rw [List.map_congr_left hsame, List.map_id']

theorem map_straighten_run (space : Run isSpace) : space.1.map straighten = space.1 :=
  map_straighten fun hm => absurd (space.2 _ hm) (by decide)

theorem IsTally.apostrophe_not_mem {entry : String × Nat} (h : IsTally entry) :
    '\'' ∉ entry.1.toList :=
  fun hm => absurd (List.all_eq_true.mp h.1.2 _ hm) (by decide)

theorem map_straighten_toDigits (n : Nat) :
    (Nat.toDigits 10 n).map straighten = Nat.toDigits 10 n :=
  map_straighten (not_mem_toDigits (by decide) n)

theorem map_memberText (quote : Char) (space : Spacing) {entry : String × Nat}
    (hlabel : '\'' ∉ entry.1.toList) :
    (memberText quote space entry).map straighten = memberText (straighten quote) space entry := by
  have hcolon : straighten ':' = ':' := rfl
  simp only [memberText, List.map_append, List.map_cons, map_straighten_run,
    map_straighten hlabel, map_straighten_toDigits, hcolon]

theorem map_laterText (quote : Char) (space : Nat → Spacing) {pairs : List (String × Nat)}
    (hlabels : ∀ e ∈ pairs, '\'' ∉ e.1.toList) :
    (laterText quote space pairs).map straighten = laterText (straighten quote) space pairs := by
  induction pairs generalizing space with
  | nil => rfl
  | cons entry pairs ih =>
    obtain ⟨hlabel, hlabels⟩ := List.forall_mem_cons.mp hlabels
    rw [laterText, laterText, List.map_cons, List.map_append, map_memberText quote _ hlabel,
      ih _ hlabels]
    rfl

/-- **The same object is written with quotes once its apostrophes are turned into them**, if none
of them stands in a label. -/
theorem map_mappingText (quote : Char) (space : Nat → Spacing) {pairs : List (String × Nat)}
    (hlabels : ∀ e ∈ pairs, '\'' ∉ e.1.toList) :
    (mappingText quote space pairs).map straighten
      = mappingText (straighten quote) space pairs := by
  cases pairs with
  | nil => rfl
  | cons entry pairs =>
    obtain ⟨hlabel, hlabels⟩ := List.forall_mem_cons.mp hlabels
    rw [mappingText_cons, mappingText_cons, List.map_cons, List.map_append, List.map_append,
      map_memberText quote _ hlabel, map_laterText quote _ hlabels]
    rfl

/-- **An object reads as the entries of its members, set one after the other**, with quotes or
with apostrophes. -/
theorem readMapping_mappingText {quote : Char} (hquote : straighten quote = '\"')
    (space : Nat → Spacing) {pairs found : List (String × Nat)}
    (hlabels : ∀ e ∈ pairs, '\'' ∉ e.1.toList) (hpairs : List.Forall₂ WritesEntry pairs found) :
    readMapping (String.ofList (mappingText quote space pairs)) = .ok (Histogram.ofList found) := by
  rw [readMapping, straightenQuotes_ofList, map_mappingText quote space hlabels, hquote,
    parse_mappingText hpairs]
  rfl

/-! ## Reading a summary line -/

theorem Share.bar_not_mem_text (share : Option Share) : '|' ∉ Share.text share := by
  cases share with
  | none => exact List.not_mem_nil
  | some share =>
    have hbefore : '|' ∉ share.before.1 := fun hm => absurd (share.before.2 _ hm) (by decide)
    have hamount : '|' ∉ share.amount.1 := fun hm => absurd (share.amount.2 _ hm) (by decide)
    simp [Share.text, hbefore, hamount]

theorem isDecimalDigit_of_isSpace {c : Char} (h : isSpace c = true) : isDecimalDigit c = false :=
  of_isSpace (q := fun c => isDecimalDigit c = false) (by decide) (by decide) (by decide)
    (by decide) h

/-- What follows the digits of an entry does not go on with a digit. -/
theorem Share.head?_text (share : Option Share) {rest : List Char}
    (hrest : ∀ c ∈ rest.head?, isDecimalDigit c = false) :
    ∀ c ∈ (Share.text share ++ rest).head?, isDecimalDigit c = false := by
  cases share with
  | none => exact hrest
  | some share =>
    rw [Share.text, List.append_assoc]
    exact head?_run_append share.before (fun _ hc => isDecimalDigit_of_isSpace hc) (by decide) _

theorem lineText_singleton (share : Nat → Option Share) (entry : String × Nat) :
    lineText share [entry] = entryText (share 0) entry := by
  simp [lineText]

theorem lineText_cons_cons (share : Nat → Option Share) (entry next : String × Nat)
    (pairs : List (String × Nat)) :
    lineText share (entry :: next :: pairs)
      = entryText (share 0) entry
        ++ ([',', ' '] ++ lineText (fun k => share (k + 1)) (next :: pairs)) := by
  rw [lineText, List.mapIdx_cons, List.mapIdx_cons, List.intercalate_cons_cons, lineText,
    List.mapIdx_cons, List.append_assoc]

/-- An entry with what stands between it and the next bar. -/
theorem entryText_append (share : Option Share) (entry : String × Nat) (between rest : List Char) :
    entryText share entry ++ (between ++ rest)
      = '|' :: (writtenEntry entry.1.toList entry.2 (Share.text share ++ between) ++ rest) := by
  simp [entryText, writtenEntry]

theorem rankedEntries_entryText (share : Option Share) {entry : String × Nat}
    (hentry : IsTally entry) (between rest : List Char)
    (hbetween : ∀ c ∈ between.head?, isDecimalDigit c = false) (hbar : '|' ∉ between)
    (hrest : EndsPiece rest) :
    rankedEntries (entryText share entry ++ (between ++ rest))
      = toRanked entry :: rankedEntries rest := by
  have htail : '|' ∉ Share.text share ++ between := by
    rw [List.mem_append, not_or]
    exact ⟨Share.bar_not_mem_text share, hbar⟩
  have hpiece := bar_not_mem_writtenEntry hentry.1.isPlain htail entry.2
  have hread := readPiece?_of_isWord hentry.1 (Share.head?_text share hbetween) entry.2
  rw [entryText_append, rankedEntries_piece hpiece hrest, hread]
  rfl

/-- The first entry of a line begins it. -/
theorem exists_lineText_eq (share : Nat → Option Share) (entry : String × Nat)
    (pairs : List (String × Nat)) :
    ∃ tail, lineText share (entry :: pairs) = '|' :: (entry.1.toList ++ '>' :: ':' :: tail) := by
  cases pairs with
  | nil => exact ⟨_, by rw [lineText_singleton, entryText, writtenEntry]⟩
  | cons next pairs =>
    rw [lineText_cons_cons, entryText, writtenEntry]
    simp only [List.cons_append, List.append_assoc]
    exact ⟨_, rfl⟩

theorem endsPiece_lineText (share : Nat → Option Share) (entry : String × Nat)
    (pairs : List (String × Nat)) : EndsPiece (lineText share (entry :: pairs)) := by
  obtain ⟨tail, htail⟩ := exists_lineText_eq share entry pairs
  rw [htail]
  rintro c ⟨⟩
  rfl

/-- **The entries of a summary line are its pairs.** -/
theorem rankedEntries_lineText (share : Nat → Option Share) {pairs : List (String × Nat)}
    (hpairs : ∀ e ∈ pairs, IsTally e) :
    rankedEntries (lineText share pairs) = pairs.map toRanked := by
  induction pairs generalizing share with
  | nil =>
    show rankedEntries [] = []
    rw [rankedEntries]
  | cons entry pairs ih =>
    obtain ⟨hentry, hpairs⟩ := List.forall_mem_cons.mp hpairs
    cases pairs with
    | nil =>
      have hread := rankedEntries_entryText (share 0) hentry [] []
        (by simp) (by simp) (by simp [EndsPiece])
      rw [List.append_nil, List.append_nil, rankedEntries] at hread
      rw [lineText_singleton, hread]
      rfl
    | cons next pairs =>
      have hcomma : ∀ c ∈ [',', ' '].head?, isDecimalDigit c = false := by
        rintro c ⟨⟩
        decide
      have hnext := endsPiece_lineText (fun k => share (k + 1)) next pairs
      have hread := rankedEntries_entryText (share 0) hentry [',', ' '] _ hcomma (by decide) hnext
      rw [lineText_cons_cons]
      exact hread.trans (congrArg _ (ih _ hpairs))

theorem isEmpty_ofList {pairs : List (String × Nat)} (hne : pairs ≠ []) :
    (Histogram.ofList pairs).isEmpty = false := by
  rcases List.eq_nil_or_concat pairs with hnil | ⟨front, last, rfl⟩
  · exact absurd hnil hne
  · rw [Histogram.ofList, List.concat_eq_append, List.foldl_append]
    exact isEmpty_insert _ _ _

/-- **A summary line reads as its pairs, set one after the other.** -/
theorem readRanked_lineText (share : Nat → Option Share) {pairs : List (String × Nat)}
    (hne : pairs ≠ []) (hpairs : ∀ e ∈ pairs, IsTally e) :
    readRanked (String.ofList (lineText share pairs)) = .ok (Histogram.ofList pairs) := by
  have hgather : gatherEntries .empty (pairs.map toRanked) = .ok (Histogram.ofList pairs) :=
    gatherEntries_map_toRanked (fun e he => (hpairs e he).2) .empty
  rw [readRanked, String.toList_ofList, rankedEntries_lineText share hpairs, hgather]
  exact if_neg (by simp [isEmpty_ofList hne])

/-! ## Telling the encodings apart -/

theorem isRanked_mappingText (quote : Char) (space : Nat → Spacing)
    (pairs : List (String × Nat)) : isRanked (mappingText quote space pairs) = false := rfl

theorem isRanked_lineText (share : Nat → Option Share) {pairs : List (String × Nat)}
    (hne : pairs ≠ []) : isRanked (lineText share pairs) = true := by
  obtain ⟨entry, pairs, rfl⟩ := List.exists_cons_of_ne_nil hne
  obtain ⟨tail, htail⟩ := exists_lineText_eq share entry pairs
  rw [htail, isRanked, ← List.cons_append, hasMark_append]
  simp

/-- The blanks around an object are taken off. -/
theorem trimChars_mappingText (quote : Char) (space : Nat → Spacing)
    (pairs : List (String × Nat)) (front back : Run isBlank) :
    trimChars (front.1 ++ (mappingText quote space pairs ++ back.1))
      = mappingText quote space pairs := by
  refine trimChars_surround front back ?_ ?_
  · rintro c ⟨⟩
    decide
  · rw [mappingText, ← List.cons_append, List.getLast?_concat]
    rintro c ⟨⟩
    decide

theorem getLast?_entryText (share : Option Share) (entry : String × Nat) :
    ∀ c ∈ (entryText share entry).getLast?, isBlank c = false := by
  -- An entry ends with its count if it has no share, and with the bracket of its share otherwise.
  cases share with
  | none =>
    have hlast : entryText none entry
        = ('|' :: (entry.1.toList ++ ['>', ':', ' '])) ++ Nat.toDigits 10 entry.2 := by
      simp [entryText, writtenEntry, Share.text]
    intro c hc
    rw [hlast, List.getLast?_append_of_ne_nil _ Nat.toDigits_ne_nil] at hc
    exact isBlank_of_isAsciiDigit (isAsciiDigit_of_mem_toDigits (List.mem_of_getLast? hc))
  | some share =>
    have hlast : entryText (some share) entry
        = ('|' :: writtenEntry entry.1.toList entry.2
            (share.before.1 ++ '(' :: (share.amount.1 ++ ['%']))) ++ [')'] := by
      simp [entryText, writtenEntry, Share.text]
    rw [hlast, List.getLast?_concat]
    rintro c ⟨⟩
    decide

theorem getLast?_lineText (share : Nat → Option Share) {pairs : List (String × Nat)} :
    ∀ c ∈ (lineText share pairs).getLast?, isBlank c = false := by
  induction pairs generalizing share with
  | nil => simp [lineText]
  | cons entry pairs ih =>
    cases pairs with
    | nil =>
      rw [lineText_singleton]
      exact getLast?_entryText (share 0) entry
    | cons next pairs =>
      obtain ⟨tail, htail⟩ := exists_lineText_eq (fun k => share (k + 1)) next pairs
      have hne : lineText (fun k => share (k + 1)) (next :: pairs) ≠ [] := by
        rw [htail]
        exact List.cons_ne_nil _ _
      rw [lineText_cons_cons, ← List.append_assoc, List.getLast?_append_of_ne_nil _ hne]
      exact ih _

/-- The blanks around a summary line are taken off. -/
theorem trimChars_lineText (share : Nat → Option Share) {pairs : List (String × Nat)}
    (hne : pairs ≠ []) (front back : Run isBlank) :
    trimChars (front.1 ++ (lineText share pairs ++ back.1)) = lineText share pairs := by
  obtain ⟨entry, pairs, rfl⟩ := List.exists_cons_of_ne_nil hne
  obtain ⟨tail, htail⟩ := exists_lineText_eq share entry pairs
  refine trimChars_surround front back ?_ (getLast?_lineText share)
  rw [htail]
  rintro c ⟨⟩
  decide

/-! ## All encodings -/

theorem Encoding.trimChars_write (encoding : Encoding) (front back : Run isBlank)
    {pairs : List (String × Nat)} (hne : pairs ≠ []) :
    trimChars (front.1 ++ (encoding.write pairs ++ back.1)) = encoding.write pairs := by
  cases encoding with
  | quoted space => exact trimChars_mappingText _ space pairs front back
  | apostrophes space => exact trimChars_mappingText _ space pairs front back
  | line share => exact trimChars_lineText share hne front back

/-- **All encodings of the same pairs give the same histogram**, the one in which the pairs are
set one after the other. -/
theorem readHistogram_write (encoding : Encoding) (front back : Run isBlank)
    {pairs : List (String × Nat)} (hne : pairs ≠ []) (hpairs : ∀ e ∈ pairs, IsTally e) :
    readHistogram (String.ofList (front.1 ++ (encoding.write pairs ++ back.1)))
      = .ok (Histogram.ofList pairs) := by
  have htrim : trim (String.ofList (front.1 ++ (encoding.write pairs ++ back.1)))
      = String.ofList (encoding.write pairs) := by
    rw [trim, String.toList_ofList, encoding.trimChars_write front back hne]
  have hlabels : ∀ e ∈ pairs, '\'' ∉ e.1.toList := fun e he => (hpairs e he).apostrophe_not_mem
  have hwritten := forall₂_writesEntry hpairs
  rw [readHistogram, htrim, String.toList_ofList]
  cases encoding with
  | quoted space =>
    exact (if_neg (by simp [Encoding.write, isRanked_mappingText])).trans
      (readMapping_mappingText rfl space hlabels hwritten)
  | apostrophes space =>
    exact (if_neg (by simp [Encoding.write, isRanked_mappingText])).trans
      (readMapping_mappingText rfl space hlabels hwritten)
  | line share =>
    exact (if_pos (isRanked_lineText share hne)).trans (readRanked_lineText share hne hpairs)

/-- Blanks of every kind around the tokens of a member. -/
def Spacing.wide : Spacing where
  beforeName := .ofAll ['\r', '\n'] rfl
  afterName := .ofAll ['\t'] rfl
  beforeCount := .ofAll [' ', ' '] rfl
  afterCount := .ofAll ['\n'] rfl

/-- No blanks around the tokens of a member. -/
def Spacing.narrow : Spacing where
  beforeName := .ofAll [] rfl
  afterName := .ofAll [] rfl
  beforeCount := .ofAll [] rfl
  afterCount := .ofAll [] rfl

/-- A share as summaries write it. -/
def Share.half : Share where
  before := .ofAll [' '] rfl
  amount := .ofAll ['5', '0', '.', '0'] rfl

/-- The greatest count, a zero, and a label that is given again. -/
theorem readHistogram_write_label_again :
    readHistogram "\u2003\x7b\r\n\"01\"\t:  18446744073709551615\n,\"1\":0,\"01\":7\x7d "
      = .ok ⟨[("01", 7), ("1", 0)], by decide⟩ ∧
    readHistogram "\x7b'01':18446744073709551615,'1':0,\r\n'01'\t:  7\n\x7d\n"
      = .ok ⟨[("01", 7), ("1", 0)], by decide⟩ ∧
    readHistogram "|01>: 18446744073709551615, |1>: 0 (50.0%), |01>: 7"
      = .ok ⟨[("01", 7), ("1", 0)], by decide⟩ := by
  have hne : [("01", 18446744073709551615), ("1", 0), ("01", 7)] ≠ [] := List.cons_ne_nil _ _
  have hpairs : ∀ e ∈ [("01", 18446744073709551615), ("1", 0), ("01", 7)], IsTally e := by decide
  have hquoted := readHistogram_write (.quoted fun k => if k = 0 then .wide else .narrow)
    (.ofAll ['\u2003'] rfl) (.ofAll [' '] rfl) hne hpairs
  have hapostrophes := readHistogram_write (.apostrophes fun k => if k = 2 then .wide else .narrow)
    (.ofAll [] rfl) (.ofAll ['\n'] rfl) hne hpairs
  have hline := readHistogram_write (.line fun k => if k = 1 then some .half else none)
    (.ofAll [] rfl) (.ofAll [] rfl) hne hpairs
  have hgathered : Histogram.ofList [("01", 18446744073709551615), ("1", 0), ("01", 7)]
      = ⟨[("01", 7), ("1", 0)], by decide⟩ := by decide
  rw [hgathered] at hquoted hapostrophes hline
  refine ⟨?_, ?_, ?_⟩
  · rw [← hquoted]
    congr 1
  · rw [← hapostrophes]
    congr 1
  · rw [← hline]
    congr 1

end QuantumBlocks
