import QuantumBlocks.Proofs.Histogram.Grammar
import QuantumBlocks.Proofs.Json.Straight

/-!
# Histograms that are written and read back

A reader of histograms takes apostrophes for quotes before it reads a mapping, also those that
stand in a label. Without any, the text is read as it was written. With one, whatever the quotes
enclose after that, no name has an apostrophe any more, since none is left and no escape that is
written stands for one.

* `straightens_render` — a histogram is written without escapes for apostrophes
* `readHistogram_render_iff` — which histograms read back
-/

namespace QuantumBlocks

open Text Number Json

/-! ## What is written -/

/-- An entry with its label as it is written between quotes. -/
def writtenLabel (entry : String × Nat) : String × Nat :=
  (String.ofList (escape entry.1.toList), entry.2)

theorem toList_renderMember (entry : String × Nat) :
    (renderMember entry.1 (toString entry.2)).toList
      = memberText '\"' .narrow (writtenLabel entry) := by
  simp [renderMember, renderString, memberText, writtenLabel, Spacing.narrow, Run.ofAll]

/-- A histogram is written as an object without blanks. -/
theorem toList_render (h : Histogram) :
    h.render.toList = mappingText '\"' (fun _ => .narrow) (h.entries.map writtenLabel) := by
  have hmembers : (h.entries.map fun entry => renderMember entry.1 (toString entry.2)).map
        String.toList
      = (h.entries.map writtenLabel).mapIdx fun _ entry => memberText '\"' .narrow entry := by
    refine List.ext_getElem (by simp) fun k _ _ => ?_
    rw [List.getElem_map, List.getElem_map, List.getElem_mapIdx, List.getElem_map]
    exact toList_renderMember _
  rw [Histogram.render, renderObject, String.toList_append, String.toList_append,
    String.toList_intercalate, hmembers, mappingText]
  rfl

theorem apostrophe_not_mem_escapeChar {c : Char} (hc : c ≠ '\'') : '\'' ∉ escapeChar c := by
  rcases escapeChar_cases c with ⟨hsame, -⟩ | ⟨letter, hshort, -, hletter⟩ | ⟨hlow, hcode⟩
  · rw [hsame, List.mem_singleton]
    exact Ne.symm hc
  · have hne : letter ≠ '\'' := by
      rintro rfl
      cases hletter
    simp [hshort, Ne.symm hne]
  · have hdigits : ∀ n < 0x20,
        '\'' ∉ ['\\', 'u', '0', '0', Nat.digitChar (n / 16), Nat.digitChar (n % 16)] := by decide
    rw [hcode]
    exact hdigits _ hlow

theorem apostrophe_not_mem_escape {cs : List Char} (h : '\'' ∉ cs) : '\'' ∉ escape cs := by
  intro hm
  obtain ⟨c, hc, hchar⟩ := List.mem_flatMap.mp hm
  have hne : c ≠ '\'' := fun heq => h (heq ▸ hc)
  exact apostrophe_not_mem_escapeChar hne hchar

/-! ## Texts with quotes for apostrophes -/

/-- A text that has no apostrophes once they are turned into quotes, also none that is escaped,
wherever it stands. -/
def Straightens (text : List Char) : Prop :=
  ∀ rest : List Char, Straight rest → Straight (text.map straighten ++ rest)

theorem straighten_ne (c : Char) : straighten c ≠ '\'' := by
  rw [straighten]
  split
  · decide
  · next h => exact h

theorem straighten_ne_of_ne {c d : Char} (hc : c ≠ d) (hd : d ≠ '\"') : straighten c ≠ d := by
  rw [straighten]
  split
  · exact hd.symm
  · exact hc

theorem straightens_of_not_mem {text : List Char} (h : '\\' ∉ text) : Straightens text := by
  intro rest hrest
  refine hrest.append fun c hc => ?_
  obtain ⟨d, hd, rfl⟩ := List.mem_map.mp hc
  exact ⟨straighten_ne d, straighten_ne_of_ne (fun heq => h (heq ▸ hd)) (by decide)⟩

theorem Straightens.append {front back : List Char} (hfront : Straightens front)
    (hback : Straightens back) : Straightens (front ++ back) := by
  intro rest hrest
  rw [List.map_append, List.append_assoc]
  exact hfront _ (hback _ hrest)

theorem straightens_escapeChar (c : Char) : Straightens (escapeChar c) := by
  intro rest hrest
  by_cases hc : c = '\''
  · rw [hc]
    exact .plain (by decide) (by decide) hrest
  · rw [map_straighten (apostrophe_not_mem_escapeChar hc)]
    rcases escapeChar_cases c with ⟨hsame, -, hescape, -⟩ | ⟨letter, hshort, hu, -⟩ | ⟨hlow, hcode⟩
    · rw [hsame]
      exact .plain hc hescape hrest
    · rw [hshort]
      exact .short hu hrest
    · rw [hcode]
      exact .code (fourHex?_digitChar hlow) hlow hrest

theorem straightens_escape (cs : List Char) : Straightens (escape cs) := by
  induction cs with
  | nil => exact fun _ hrest => hrest
  | cons c cs ih =>
    rw [escape, List.flatMap_cons]
    exact (straightens_escapeChar c).append ih

theorem backslash_not_mem_run (run : Run isSpace) : '\\' ∉ run.1 := fun hm =>
  absurd (run.2 _ hm) (by decide)

theorem straightens_memberText (space : Spacing) (entry : String × Nat) :
    Straightens (memberText '\"' space (writtenLabel entry)) := by
  have hdigits : '\\' ∉ Nat.toDigits 10 entry.2 := not_mem_toDigits (by decide) entry.2
  have hfront : Straightens (space.beforeName.1 ++ ['\"']) :=
    straightens_of_not_mem (by simp [backslash_not_mem_run])
  have hback : Straightens ('\"' :: (space.afterName.1 ++ ':' ::
      (space.beforeCount.1 ++ (Nat.toDigits 10 entry.2 ++ space.afterCount.1)))) :=
    straightens_of_not_mem (by simp [backslash_not_mem_run, hdigits])
  have hmember := (hfront.append (straightens_escape entry.1.toList)).append hback
  rw [List.append_assoc, List.append_assoc] at hmember
  rw [memberText, writtenLabel, String.toList_ofList]
  exact hmember

theorem straightens_intercalate {between : List Char} {parts : List (List Char)}
    (hbetween : Straightens between) (hparts : ∀ part ∈ parts, Straightens part) :
    Straightens (between.intercalate parts) := by
  induction parts with
  | nil => exact fun _ hrest => hrest
  | cons part parts ih =>
    rw [List.forall_mem_cons] at hparts
    cases parts with
    | nil =>
      rw [List.intercalate_singleton]
      exact hparts.1
    | cons next parts =>
      rw [List.intercalate_cons_cons, List.append_assoc]
      exact hparts.1.append (hbetween.append (ih hparts.2))

/-- **A histogram is written without escapes for apostrophes.** -/
theorem straightens_render (h : Histogram) : Straightens h.render.toList := by
  have hmembers : ∀ part ∈ (h.entries.map writtenLabel).mapIdx
      (fun _ entry => memberText '\"' .narrow entry), Straightens part := by
    intro part hpart
    obtain ⟨k, hk, rfl⟩ := List.mem_mapIdx.mp hpart
    rw [List.getElem_map]
    exact straightens_memberText .narrow _
  rw [toList_render, mappingText, ← List.singleton_append]
  exact (straightens_of_not_mem (by simp)).append
    ((straightens_intercalate (straightens_of_not_mem (by simp)) hmembers).append
      (straightens_of_not_mem (by simp)))

/-! ## What is read -/

/-- The text of a histogram is read as a mapping. -/
theorem readHistogram_render (h : Histogram) : readHistogram h.render = readMapping h.render := by
  have htrim : trim h.render = h.render := by
    have hobject := trimChars_mappingText '\"' (fun _ => .narrow) (h.entries.map writtenLabel)
      (.ofAll [] rfl) (.ofAll [] rfl)
    rw [← toList_render] at hobject
    rw [← String.toList_inj, trim, String.toList_ofList]
    simpa [Run.ofAll] using hobject
  have hobject : isRanked h.render.toList = false := by
    rw [toList_render]
    exact isRanked_mappingText _ _ _
  rw [readHistogram, htrim]
  exact if_neg (by simp [hobject])

/-- No label of a member has an apostrophe if its text has none. -/
theorem apostrophe_not_mem_of_isMember {text rest : List Char} {entry : String × Nat}
    (hmember : IsMember text entry) (h : Straight (text ++ rest)) :
    '\'' ∉ entry.1.toList ∧ Straight rest := by
  obtain ⟨space, spelling, hlabel, -, rfl⟩ := hmember
  rw [memberText_append, String.toList_ofList] at h
  have hquote := (h.of_append (backslash_not_mem_run _)).tail (by decide)
  obtain ⟨hnot, hafter⟩ := hquote.of_denotes hlabel
  have hvalue := (hafter.of_append (backslash_not_mem_run _)).tail (by decide)
  have hcount := (hvalue.of_append (backslash_not_mem_run _)).of_append
    (not_mem_toDigits (by decide) entry.2)
  exact ⟨hnot, hcount.of_append (backslash_not_mem_run _)⟩

theorem apostrophe_not_mem_of_later {texts : List (List Char)} {pairs : List (String × Nat)}
    (hmembers : List.Forall₂ IsMember texts pairs) {rest : List Char}
    (h : Straight (texts.flatMap (',' :: ·) ++ rest)) : ∀ pair ∈ pairs, '\'' ∉ pair.1.toList := by
  induction hmembers with
  | nil => exact fun _ hpair => absurd hpair List.not_mem_nil
  | cons hmember _ ih =>
    rw [List.flatMap_cons, List.append_assoc, List.cons_append] at h
    obtain ⟨hnot, hlater⟩ := apostrophe_not_mem_of_isMember hmember (h.tail (by decide))
    exact List.forall_mem_cons.mpr ⟨hnot, ih hlater⟩

/-- No label that is read from a text without apostrophes has one. -/
theorem apostrophe_not_mem_of_parse {text : String} (h : Straight text.toList) {g : Histogram}
    (hparse : Histogram.decoder.parse text = .ok g) :
    ∀ entry ∈ g.entries, '\'' ∉ entry.1.toList := by
  obtain ⟨pairs, ⟨front, back, body, hbody, htext⟩, rfl⟩ := parse_eq_ok_iff.mp hparse
  rw [htext] at h
  have hobject := h.of_append (backslash_not_mem_run front)
  have hnames : ∀ pair ∈ pairs, '\'' ∉ pair.1.toList := by
    cases hbody with
    | empty => exact fun _ hpair => absurd hpair List.not_mem_nil
    | members hmember hmembers =>
      rw [intercalate_cons_eq_flatMap, List.cons_append, List.append_assoc, List.append_assoc]
        at hobject
      obtain ⟨hnot, hlater⟩ := apostrophe_not_mem_of_isMember hmember (hobject.tail (by decide))
      exact List.forall_mem_cons.mpr ⟨hnot, apostrophe_not_mem_of_later hmembers hlater⟩
  intro entry hentry
  obtain ⟨pair, hpair, hname⟩ := List.mem_map.mp (mem_labels_of_mem_ofList hentry)
  rw [← hname]
  exact hnames pair hpair

/-- **No label that is read has an apostrophe**, wherever the quotes for those of the labels that
were written put its ends. -/
theorem apostrophe_not_mem_of_readMapping {g h : Histogram}
    (hread : readMapping g.render = .ok h) : ∀ entry ∈ h.entries, '\'' ∉ entry.1.toList := by
  have hstraight : Straight (straightenQuotes g.render).toList := by
    have hrendered := straightens_render g [] .nil
    rw [List.append_nil] at hrendered
    rw [← String.ofList_toList (s := g.render), straightenQuotes_ofList, String.toList_ofList]
    exact hrendered
  rw [readMapping] at hread
  cases hparse : Histogram.decoder.parse (straightenQuotes g.render) with
  | error reason =>
    rw [hparse] at hread
    cases hread
  | ok read =>
    rw [hparse] at hread
    cases hread
    exact apostrophe_not_mem_of_parse hstraight hparse

/-- What is written for a histogram without apostrophes is read as it. -/
theorem readMapping_render {h : Histogram} (hcounts : ∀ entry ∈ h.entries, entry.2 ≤ maxUnsigned64)
    (hlabels : ∀ entry ∈ h.entries, '\'' ∉ entry.1.toList) : readMapping h.render = .ok h := by
  have hwritten : List.Forall₂ WritesEntry (h.entries.map writtenLabel) h.entries := by
    rw [List.forall₂_map_left_iff, List.forall₂_same]
    intro entry hentry
    refine ⟨?_, rfl, hcounts entry hentry⟩
    rw [writtenLabel, String.toList_ofList]
    exact spells_escape entry.1
  have hstraight : ∀ entry ∈ h.entries.map writtenLabel, '\'' ∉ entry.1.toList := by
    intro entry hentry
    obtain ⟨original, horiginal, rfl⟩ := List.mem_map.mp hentry
    rw [writtenLabel, String.toList_ofList]
    exact apostrophe_not_mem_escape (hlabels original horiginal)
  have hquote : straighten '\"' = '\"' := rfl
  have hread := readMapping_mappingText hquote (fun _ => .narrow) hstraight hwritten
  rw [← toList_render, String.ofList_toList, Histogram.ofList_entries] at hread
  exact hread

/-- **A histogram reads back exactly if no label has an apostrophe**, whatever else its labels
hold. -/
theorem readHistogram_render_iff {h : Histogram}
    (hcounts : ∀ entry ∈ h.entries, entry.2 ≤ maxUnsigned64) :
    readHistogram h.render = .ok h ↔ ∀ entry ∈ h.entries, '\'' ∉ entry.1.toList := by
  rw [readHistogram_render]
  exact ⟨apostrophe_not_mem_of_readMapping, readMapping_render hcounts⟩

/-- Labels with every kind of mark, and a label with apostrophes around what reads as a count. -/
theorem readHistogram_render_iff_marks :
    readHistogram (Histogram.render ⟨[("\"\\", 18446744073709551615), ("\x00\n\x7f", 0),
        ("|0>: 1", 2), ("\x7b\x7d", 3), ("", 4), ("\u03c8", 5)], by decide⟩)
      = .ok ⟨[("\"\\", 18446744073709551615), ("\x00\n\x7f", 0),
        ("|0>: 1", 2), ("\x7b\x7d", 3), ("", 4), ("\u03c8", 5)], by decide⟩ ∧
    readHistogram (Histogram.render ⟨[("a':1,'b", 2)], by decide⟩)
      ≠ .ok ⟨[("a':1,'b", 2)], by decide⟩ := by
  constructor
  · exact (readHistogram_render_iff (by decide)).mpr (by decide)
  · intro hread
    exact absurd ((readHistogram_render_iff (by decide)).mp hread) (by decide)

end QuantumBlocks
