import QuantumBlocks.Proofs.Histogram.Encodings
import QuantumBlocks.Proofs.Json.Consumed

/-!
# The texts that are histograms

A text is read as a histogram exactly if it is an object of labels and counts, with blanks around
it and between its tokens. The histogram is that of the members in the order of the text: a label
may be given again, and spelled in another way.

* `exists_fromText_of_isObject` — every such text is read
* `exists_isObject_of_fromText` — what is read is such a text
* `parse_eq_ok_iff` — the texts that are read, and what they are read as
-/

namespace QuantumBlocks

open Json Text Number

/-! ## Texts of objects -/

/-- A text is a member of an object, some spelling of a label and a count of 64 bits. -/
def IsMember (text : List Char) (entry : String × Nat) : Prop :=
  ∃ (space : Spacing) (spelling : List Char), Denotes spelling entry.1.toList ∧
    entry.2 ≤ maxUnsigned64 ∧
    text = memberText '\"' space (String.ofList spelling, entry.2)

/-- A text is an object with members of these labels and counts in their order. -/
inductive IsObject : List Char → List (String × Nat) → Prop where
  | empty (space : Run isSpace) : IsObject ('\x7b' :: (space.1 ++ ['\x7d'])) []
  | members {text : List Char} {texts : List (List Char)} {entry : String × Nat}
    {pairs : List (String × Nat)} (h : IsMember text entry) (hs : List.Forall₂ IsMember texts pairs) :
    IsObject ('\x7b' :: ([','].intercalate (text :: texts) ++ ['\x7d'])) (entry :: pairs)

/-- A text is an object of these labels and counts with blanks around it. -/
def Encodes (text : List Char) (pairs : List (String × Nat)) : Prop :=
  ∃ (front back : Run isSpace) (body : List Char), IsObject body pairs ∧
    text = front.1 ++ (body ++ back.1)

/-! ## Every such text is read -/

/-- Members with their blanks, one after the other. -/
theorem exists_mapIdx_of_isMember {texts : List (List Char)} {pairs : List (String × Nat)}
    (h : List.Forall₂ IsMember texts pairs) :
    ∃ (space : Nat → Spacing) (written : List (String × Nat)),
      List.Forall₂ WritesEntry written pairs ∧
      texts = written.mapIdx fun k entry => memberText '\"' (space k) entry := by
  induction h with
  | nil => exact ⟨fun _ => .narrow, [], .nil, rfl⟩
  | @cons text entry texts pairs hentry _ ih =>
    obtain ⟨first, spelling, hlabel, hcount, htext⟩ := hentry
    obtain ⟨space, written, hwritten, htexts⟩ := ih
    have hspells : Spells (String.ofList spelling).toList entry.1 := by
      rw [String.toList_ofList]
      exact spells_iff_denotes.mpr hlabel
    refine ⟨fun k => k.casesOn first space, (String.ofList spelling, entry.2) :: written,
      .cons ⟨hspells, rfl, hcount⟩ hwritten, ?_⟩
    rw [List.mapIdx_cons, htext, htexts]
    rfl

/-- **Every object of labels and counts is read**, up to the text behind it. -/
theorem exists_fromText_of_isObject {body : List Char} {pairs : List (String × Nat)}
    (h : IsObject body pairs) (depth : Nat) (front : Run isSpace) (tail : List Char) :
    ∃ h, (Decoder.members .unsigned64 Histogram.expected).fromText (depth + 1)
      (front.1 ++ (body ++ tail)) = .ok (pairs, ⟨tail, h⟩) := by
  cases h with
  | empty space =>
    rw [List.cons_append, List.append_assoc]
    exact Decoder.fromText_members front fun n h =>
      exists_readMembers_close [] h (nextMember_close _ _ space tail _)
  | members h hs =>
    obtain ⟨space, written, hwritten, htexts⟩ := exists_mapIdx_of_isMember (.cons h hs)
    rw [htexts]
    exact exists_readMembers_mapping hwritten space depth front tail

/-! ## What is read is such a text -/

/-- A name, a colon and a count that are read make a member, with blanks in front of the name and
behind the count. -/
theorem exists_isMember_of_read {depth : Nat} {name : String} {text rest : List Char}
    (hname : Denotes text name.toList) {value : Shorter rest.length}
    (hcolon : readColon rest = .ok value) {count : Nat} {later : Shorter value.1.length}
    (hcount : Decoder.unsigned64.fromText depth value.1 = .ok (count, later))
    (before after : Run isSpace) {tail : List Char} (hlater : later.1 = after.1 ++ tail) :
    ∃ member, IsMember member (name, count) ∧
      before.1 ++ '\"' :: (text ++ '\"' :: rest) = member ++ tail := by
  obtain ⟨afterName, hrest⟩ := exists_of_readColon hcolon
  obtain ⟨hmax, beforeCount, hvalue⟩ := exists_of_fromText_unsigned64 hcount
  refine ⟨_, ⟨⟨before, afterName, beforeCount, after⟩, text, hname, hmax, rfl⟩, ?_⟩
  rw [memberText_append, String.toList_ofList, ← hlater, ← hvalue, ← hrest]

/-- Members that follow others stand behind commas. -/
theorem exists_of_readMembers_later {depth n : Nat} {done found : List (String × Nat)}
    {cs : List Char} {hlen : cs.length < n} {left : Shorter n} (hdone : done.isEmpty = false)
    (h : readMembers (Decoder.unsigned64.fromText depth) n done cs hlen = .ok (found, left)) :
    ∃ (before : Run isSpace) (texts : List (List Char)) (pairs : List (String × Nat)),
      List.Forall₂ IsMember texts pairs ∧ found = done.reverse ++ pairs ∧
      cs = before.1 ++ (texts.flatMap (',' :: ·) ++ '\x7d' :: left.1) := by
  fun_induction readMembers (Decoder.unsigned64.fromText depth) n done cs hlen with
  | case1 => cases h
  | case2 done cs hlen rest hr hnext =>
    cases h
    obtain ⟨before, hcs⟩ := exists_of_nextMember_closed hnext
    exact ⟨before, [], [], .nil, (List.append_nil _).symm, hcs⟩
  | case3 => cases h
  | case4 => cases h
  | case5 done cs hlen name rest hr hnext hrest value hv hcolon hvalue count later hl hcount ih =>
    rw [hdone] at hnext
    obtain ⟨before, beforeName, text, hname, hcs⟩ := exists_of_nextMember_later hnext
    obtain ⟨after, texts, pairs, hpairs, hfound, hlater⟩ := ih rfl h
    obtain ⟨member, hmember, htext⟩ :=
      exists_isMember_of_read hname hcolon hcount beforeName after hlater
    refine ⟨before, member :: texts, (name, count) :: pairs, .cons hmember hpairs, ?_, ?_⟩
    · rw [hfound, List.reverse_cons, List.append_assoc]
      rfl
    · rw [hcs, htext, List.flatMap_cons, List.append_assoc]
      rfl

theorem intercalate_cons_eq_flatMap (text : List Char) (texts : List (List Char)) :
    [','].intercalate (text :: texts) = text ++ texts.flatMap (',' :: ·) := by
  induction texts generalizing text with
  | nil => simp
  | cons next texts ih =>
    rw [List.intercalate_cons_cons, ih, List.flatMap_cons, List.append_assoc]
    rfl

/-- **What is read is an object of labels and counts**, with blanks in front of it. -/
theorem exists_isObject_of_fromText {depth : Nat} {cs : List Char} {pairs : List (String × Nat)}
    {left : Shorter cs.length}
    (h : (Decoder.members .unsigned64 Histogram.expected).fromText depth cs = .ok (pairs, left)) :
    ∃ (front : Run isSpace) (body : List Char), IsObject body pairs ∧
      cs = front.1 ++ (body ++ left.1) := by
  obtain ⟨inner, front, tail, hlen, -, hcs, hread⟩ := exists_of_fromText_members h
  rw [readMembers] at hread
  split at hread
  · cases hread
  · next rest _ hnext =>
    cases hread
    obtain ⟨space, htail⟩ := exists_of_nextMember_closed hnext
    have hbody : '\x7b' :: tail = ('\x7b' :: (space.1 ++ ['\x7d'])) ++ rest := by
      rw [htail, List.cons_append, List.append_assoc]
      rfl
    exact ⟨front, _, .empty space, hcs.trans (congrArg (front.1 ++ ·) hbody)⟩
  · next name rest hr hnext =>
    obtain ⟨beforeName, text, hname, htail⟩ := exists_of_nextMember_first hnext
    simp only at hread
    split at hread
    · cases hread
    · next hcolon =>
      split at hread
      · cases hread
      · next hcount =>
        obtain ⟨after, texts, later, hpairs, hfound, hlater⟩ :=
          exists_of_readMembers_later rfl hread
        obtain ⟨member, hmember, htext⟩ :=
          exists_isMember_of_read hname hcolon hcount beforeName after hlater
        rw [hfound]
        refine ⟨front, _, .members hmember hpairs, hcs.trans ?_⟩
        rw [htail, htext, intercalate_cons_eq_flatMap]
        simp

/-! ## Whole texts -/

/-- **The texts that are read as histograms** are the objects of labels and counts, and what one
is read as are its members, set one after the other. -/
theorem parse_eq_ok_iff {text : String} {h : Histogram} :
    Histogram.decoder.parse text = .ok h ↔
      ∃ pairs, Encodes text.toList pairs ∧ h = Histogram.ofList pairs := by
  constructor
  · intro hparse
    obtain ⟨left, hread, hblank⟩ := Decoder.exists_of_parse hparse
    rw [Histogram.decoder] at hread
    obtain ⟨pairs, hpairs, rfl⟩ := Decoder.exists_of_fromText_map hread
    obtain ⟨front, body, hbody, htext⟩ := exists_isObject_of_fromText hpairs
    exact ⟨pairs, ⟨front, ⟨left.1, hblank⟩, body, hbody, htext⟩, rfl⟩
  · rintro ⟨pairs, ⟨front, back, body, hbody, htext⟩, rfl⟩
    refine Decoder.parse_of_fromText back (Decoder.fromText_map _ ?_)
    rw [htext]
    exact exists_fromText_of_isObject hbody 126 front back.1

end QuantumBlocks
