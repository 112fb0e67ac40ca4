import Mathlib
import ZoneGuard.Proofs.Markup.Nesting

/-!
# Documents that are cut off

A document that is cut off is no document any more, or it has the same root.  Up
to the cut the scanner does what it does on the whole document, so it finds the
first tags of the document, and behind them at most a closing tag that the cut
has shortened.  The builder accepts such a tag at the end only if it closes the
root, and then the tag that it was cut from closes the root as well.
-/

namespace ZoneGuard.Markup

/-! ## Tags that have been found stay found -/

namespace Scanner

theorem run_cons_eq_ok_iff {s s' : Scanner} {c : Char} {cs : List Char} :
    s.run (c :: cs) = .ok s' ↔ ∃ between, s.next c = .ok between ∧ between.run cs = .ok s' := by
  rw [run]
  cases s.next c with
  | error e => simp
  | ok between => simp

theorem run_append_eq_ok_iff {s s' : Scanner} {cs ds : List Char} :
    s.run (cs ++ ds) = .ok s' ↔ ∃ between, s.run cs = .ok between ∧ between.run ds = .ok s' := by
  induction cs generalizing s with
  | nil => simp [run]
  | cons c cs ih =>
      simp only [List.cons_append, run_cons_eq_ok_iff, ih]
      constructor
      · rintro ⟨first, hnext, between, hcs, hds⟩
        exact ⟨between, ⟨first, hnext, hcs⟩, hds⟩
      · rintro ⟨between, ⟨first, hnext, hcs⟩, hds⟩
        exact ⟨first, hnext, between, hcs, hds⟩

theorem stop_of_complete {construct : Construct} {stop : Nat} {content : List Char}
    {tags : List ScannedTag} (h : complete construct stop content = .ok tags) :
    ∀ t ∈ tags, t.stop = stop := by
  unfold complete at h
  split at h
  · cases h
    simp
  · split at h
    · cases h
      simp
    · cases h
  · obtain ⟨-, -, rfl⟩ := except_map_eq_ok_iff.1 h
    simp

/-- A character is counted, and the tags that it completes end behind it. -/
theorem next_eq_ok {s s' : Scanner} {c : Char} (h : s.next c = .ok s') :
    s'.position = s.position + c.utf8Size ∧
      ∃ tags, s'.found = tags ++ s.found ∧ ∀ t ∈ tags, t.stop = s'.position := by
  unfold next at h
  dsimp only at h
  split at h
  · cases h
    exact ⟨rfl, [], rfl, by simp⟩
  · split at h
    · obtain ⟨tags, htags, rfl⟩ := except_map_eq_ok_iff.1 h
      exact ⟨rfl, tags, rfl, stop_of_complete htags⟩
    · cases h
      exact ⟨rfl, [], rfl, by simp⟩
  · obtain ⟨mode, -, rfl⟩ := except_map_eq_ok_iff.1 h
    exact ⟨rfl, [], rfl, by simp⟩
  · split at h
    · obtain ⟨tags, htags, rfl⟩ := except_map_eq_ok_iff.1 h
      exact ⟨rfl, tags, rfl, stop_of_complete htags⟩
    · cases h
      exact ⟨rfl, [], rfl, by simp⟩

/-- All characters are counted, and tags only come in front of the ones found
before, none of them ending behind the last character. -/
theorem run_eq_ok {s s' : Scanner} {cs : List Char} (h : s.run cs = .ok s') :
    s'.position = s.position + Text.byteLength cs ∧
      ∃ tags, s'.found = tags ++ s.found ∧ ∀ t ∈ tags, t.stop ≤ s'.position := by
  induction cs generalizing s with
  | nil =>
      cases h
      exact ⟨rfl, [], rfl, by simp⟩
  | cons c cs ih =>
      obtain ⟨between, hnext, hrun⟩ := run_cons_eq_ok_iff.1 h
      obtain ⟨hposition, tags, hfound, hstop⟩ := next_eq_ok hnext
      obtain ⟨hposition', tags', hfound', hstop'⟩ := ih hrun
      refine ⟨?_, tags' ++ tags, ?_, ?_⟩
      · rw [hposition', hposition, Text.byteLength_cons, Nat.add_assoc]
      · rw [hfound', hfound, List.append_assoc]
      · intro t ht
        rcases List.mem_append.1 ht with ht | ht
        · exact hstop' t ht
        · have hle : between.position ≤ s'.position := hposition' ▸ Nat.le_add_right _ _
          exact (hstop t ht).trans_le hle

/-- A closing tag may lack its bracket at the end of a document. -/
theorem finish_closingTag (start position : Nat) (taken : List Char)
    (found : List ScannedTag) :
    finish ⟨.inside .closingTag start taken, position, found⟩ =
      .ok (found.reverse ++ [⟨closingTag (taken.reverse.drop 1), position⟩]) :=
  congrArg Except.ok List.reverse_cons

/-- Where a document ends inside a closing tag, that tag is added to the ones
that have been found, and anywhere else nothing is. -/
theorem finish_eq_ok {s : Scanner} {tags : List ScannedTag} (h : s.finish = .ok tags) :
    tags = s.found.reverse ∨ ∃ start taken, s.mode = .inside .closingTag start taken ∧
      tags = s.found.reverse ++ [⟨closingTag (taken.reverse.drop 1), s.position⟩] := by
  obtain ⟨mode, position, found⟩ := s
  cases mode with
  | text => exact Or.inl (Except.ok.inj h).symm
  | bracket => exact Or.inl (Except.ok.inj h).symm
  | bang start => cases h
  | inside construct start taken =>
      cases construct with
      | comment => cases h
      | dataSection => cases h
      | documentType => cases h
      | openingTag quote? => cases h
      | instruction =>
          obtain ⟨added, hadded, rfl⟩ := except_map_eq_ok_iff.1 h
          obtain ⟨-, -, rfl⟩ := except_map_eq_ok_iff.1 hadded
          exact Or.inl rfl
      | closingTag =>
          rw [finish_closingTag] at h
          exact Or.inr ⟨start, taken, rfl, (Except.ok.inj h).symm⟩

/-- The tags of a document begin with those found in any part of it that the
scanner has read. -/
theorem found_prefix_of_run {s s' : Scanner} {cs : List Char} {tags : List ScannedTag}
    (hrun : s.run cs = .ok s') (hfinish : s'.finish = .ok tags) :
    s.found.reverse <+: tags := by
  obtain ⟨-, later, hfound, -⟩ := run_eq_ok hrun
  have hreverse : s'.found.reverse = s.found.reverse ++ later.reverse := by
    rw [hfound, List.reverse_append]
  have hlater : s.found.reverse <+: s'.found.reverse := hreverse ▸ List.prefix_append _ _
  rcases finish_eq_ok hfinish with rfl | ⟨_, _, _, rfl⟩
  · exact hlater
  · exact hlater.trans (List.prefix_append _ _)

theorem exists_closingTag_eq (content : List Char) :
    ∃ name, closingTag content = .closing name :=
  ⟨_, rfl⟩

theorem next_closingTag {c : Char} (hc : c ≠ '>') (start position : Nat) (taken : List Char)
    (found : List ScannedTag) :
    next ⟨.inside .closingTag start taken, position, found⟩ c =
      .ok ⟨.inside .closingTag start (c :: taken), position + c.utf8Size, found⟩ := by
  simp [next, hc, extend]

/-- Where a document is inside a closing tag, its next tag is a closing tag,
whatever characters follow. -/
theorem exists_closing_of_run {cs : List Char} {start position : Nat} {taken : List Char}
    {found tags : List ScannedTag} {s : Scanner}
    (hrun : run ⟨.inside .closingTag start taken, position, found⟩ cs = .ok s)
    (hfinish : s.finish = .ok tags) :
    ∃ name stop behind, tags = found.reverse ++ ⟨.closing name, stop⟩ :: behind := by
  induction cs generalizing position taken with
  | nil =>
      obtain ⟨name, hname⟩ := exists_closingTag_eq (taken.reverse.drop 1)
      cases hrun
      rw [finish_closingTag, hname] at hfinish
      exact ⟨name, position, [], (Except.ok.inj hfinish).symm⟩
  | cons c cs ih =>
      by_cases hc : c = '>'
      · subst hc
        obtain ⟨name, hname⟩ := exists_closingTag_eq (taken.reverse.drop 1)
        rw [run_cons (next_closingTag_end start position taken found), hname] at hrun
        obtain ⟨behind, rfl⟩ := found_prefix_of_run hrun hfinish
        exact ⟨name, position + '>'.utf8Size, behind, by simp⟩
      · rw [run_cons (next_closingTag hc start position taken found)] at hrun
        exact ih hrun

end Scanner

/-! ## The tags of a document that is cut off -/

/-- The second list are the tags of a document, and the first those of the same
document after it has been cut off: the document's first tags, and then perhaps
a closing tag where the document has one too. -/
inductive IsCut : List Token → List Token → Prop
  | between (common behind : List Token) : IsCut common (common ++ behind)
  | insideClosing (common : List Token) (cutName name : String) (cutOffset offset : Nat)
      (behind : List Token) :
      IsCut (common ++ [⟨.closing cutName, cutOffset⟩])
        (common ++ ⟨.closing name, offset⟩ :: behind)

theorem withoutMark_append {cs : List Char} (h : cs ≠ []) (ds : List Char) :
    withoutMark (cs ++ ds) = withoutMark cs ++ ds := by
  obtain ⟨c, cs, rfl⟩ := List.exists_cons_of_ne_nil h
  rw [List.cons_append, withoutMark_cons, withoutMark_cons]
  split
  · rfl
  · rfl

theorem byteLength_withoutMark_le (cs : List Char) :
    Text.byteLength (withoutMark cs) ≤ Text.byteLength cs := by
  cases cs with
  | nil => exact Nat.le_refl _
  | cons c cs =>
      rw [withoutMark_cons]
      split
      · exact Nat.le_add_left _ _
      · exact Nat.le_refl _

/-- The place of a tag is not moved by what comes behind it. -/
theorem tagOffset_append {cs : List Char} {stop : Nat} (h : stop ≤ Text.byteLength cs)
    (ds : List Char) : tagOffset (cs ++ ds) stop = tagOffset cs stop := by
  have hgo : ∀ (cs : List Char) (last? : Option Nat) (here : Nat),
      stop ≤ here + Text.byteLength cs →
        tagOffset.go stop last? here (cs ++ ds) = tagOffset.go stop last? here cs := by
    intro cs
    induction cs with
    | nil =>
        intro last? here hstop
        rw [Text.byteLength_nil, Nat.add_zero] at hstop
        cases ds with
        | nil => rfl
        | cons d ds =>
            rw [List.nil_append, tagOffset.go, tagOffset.go]
            split
            · rw [if_neg (by omega)]
            · rw [if_pos (by omega), if_pos (by omega)]
    | cons c cs ih =>
        intro last? here hstop
        rw [Text.byteLength_cons] at hstop
        rw [List.cons_append, tagOffset.go, tagOffset.go, ih _ _ (by omega)]
  exact hgo cs none 0 (by omega)

/-- A document is scanned from its beginning, without a mark, to its end. -/
theorem scan_eq_ok_iff {document : List Char} {tags : List ScannedTag} :
    scan document = .ok tags ↔
      ∃ s, Scanner.initial.run (withoutMark document) = .ok s ∧ s.finish = .ok tags := by
  rw [scan]
  cases Scanner.initial.run (withoutMark document) with
  | error e => simp
  | ok s => simp

/-- The tags of a document are those scanned, each with its place. -/
theorem tokens_eq_ok_iff {document : List Char} {ts : List Token} :
    tokens document = .ok ts ↔ ∃ tags, scan document = .ok tags ∧
      tags.map (fun t => ⟨t.tag, tagOffset document t.stop⟩) = ts := by
  rw [tokens]
  cases scan document with
  | error e => simp
  | ok tags => simp

/-- What the scanner finds in a document that is cut off, and in the whole of it. -/
theorem scan_append {cut rest : List Char} {cutTags tags : List ScannedTag}
    (hcut : scan cut = .ok cutTags) (h : scan (cut ++ rest) = .ok tags) :
    ∃ common, (∀ t ∈ common, t.stop ≤ Text.byteLength cut) ∧
      ((cutTags = common ∧ common <+: tags) ∨
        ∃ cutName cutStop name stop behind,
          cutTags = common ++ [⟨.closing cutName, cutStop⟩] ∧
            tags = common ++ ⟨.closing name, stop⟩ :: behind) := by
  by_cases hempty : cut = []
  · subst hempty
    cases hcut
    exact ⟨[], by simp, Or.inl ⟨rfl, List.nil_prefix⟩⟩
  obtain ⟨s, hs, hcutFinish⟩ := scan_eq_ok_iff.1 hcut
  obtain ⟨s', hs', hfinish⟩ := scan_eq_ok_iff.1 h
  rw [withoutMark_append hempty, Scanner.run_append_eq_ok_iff] at hs'
  obtain ⟨between, hbetween, hrest⟩ := hs'
  cases hs.symm.trans hbetween
  obtain ⟨hposition, found, hfound, hstop⟩ := Scanner.run_eq_ok hs
  have hbound : ∀ t ∈ s.found.reverse, t.stop ≤ Text.byteLength cut := by
    intro t ht
    have hle : s.position ≤ Text.byteLength cut := by
      rw [hposition, Scanner.initial, Nat.zero_add]
      exact byteLength_withoutMark_le cut
    rw [hfound, Scanner.initial, List.append_nil, List.mem_reverse] at ht
    exact (hstop t ht).trans hle
  refine ⟨s.found.reverse, hbound, ?_⟩
  rcases Scanner.finish_eq_ok hcutFinish with rfl | ⟨start, taken, hmode, rfl⟩
  · exact Or.inl ⟨rfl, Scanner.found_prefix_of_run hrest hfinish⟩
  · obtain ⟨mode, position, found⟩ := s
    cases hmode
    obtain ⟨name, stop, behind, htags⟩ := Scanner.exists_closing_of_run hrest hfinish
    obtain ⟨cutName, hcutName⟩ := Scanner.exists_closingTag_eq (taken.reverse.drop 1)
    exact Or.inr ⟨cutName, position, name, stop, behind, by rw [hcutName], htags⟩

/-- Up to the cut, tags are at the same places. -/
theorem isCut_tokens {cut rest : List Char} {cutTokens ts : List Token}
    (hcut : tokens cut = .ok cutTokens) (h : tokens (cut ++ rest) = .ok ts) :
    IsCut cutTokens ts := by
  obtain ⟨cutTags, hcutScan, rfl⟩ := tokens_eq_ok_iff.1 hcut
  obtain ⟨tags, hscan, rfl⟩ := tokens_eq_ok_iff.1 h
  obtain ⟨common, hbound, hcommon⟩ := scan_append hcutScan hscan
  have hplace : common.map (fun t => (⟨t.tag, tagOffset (cut ++ rest) t.stop⟩ : Token)) =
      common.map fun t => ⟨t.tag, tagOffset cut t.stop⟩ :=
    List.map_congr_left fun t ht => by rw [tagOffset_append (hbound t ht)]
  rcases hcommon with ⟨rfl, behind, rfl⟩ | ⟨cutName, cutStop, name, stop, behind, rfl, rfl⟩
  · rw [List.map_append, hplace]
    exact .between _ _
  · rw [List.map_append, List.map_append, hplace]
    exact .insideClosing _ _ _ _ _ _

/-! ## The root of a document that is cut off -/

namespace Builder

theorem run_cons_eq_ok_iff {b b' : Builder} {t : Token} {ts : List Token} :
    b.run (t :: ts) = .ok b' ↔ ∃ between, b.next t = .ok between ∧ between.run ts = .ok b' := by
  rw [run]
  cases b.next t with
  | error e => simp
  | ok between => simp

theorem run_append_eq_ok_iff {b b' : Builder} {ts us : List Token} :
    b.run (ts ++ us) = .ok b' ↔ ∃ between, b.run ts = .ok between ∧ between.run us = .ok b' := by
  induction ts generalizing b with
  | nil => simp [run]
  | cons t ts ih =>
      simp only [List.cons_append, run_cons_eq_ok_iff, ih]
      constructor
      · rintro ⟨first, hnext, between, hts, hus⟩
        exact ⟨between, ⟨first, hnext, hts⟩, hus⟩
      · rintro ⟨between, ⟨first, hnext, hts⟩, hus⟩
        exact ⟨first, hnext, between, hts, hus⟩

/-- Nothing may follow the root. -/
theorem run_finished_eq_ok {root : Element} {ts : List Token} {b : Builder}
    (h : run (.finished root) ts = .ok b) : b = .finished root := by
  cases ts with
  | nil => exact (Except.ok.inj h).symm
  | cons t ts => cases h

/-- A closing tag does the same wherever it stands, and only one name closes the
innermost element. -/
theorem next_closing_eq_ok {b b' b'' : Builder} {name name' : String} {offset offset' : Nat}
    (h : b.next ⟨.closing name, offset⟩ = .ok b')
    (h' : b.next ⟨.closing name', offset'⟩ = .ok b'') : b' = b'' := by
  cases b with
  | empty => cases h
  | finished root => cases h
  | building o outer =>
      simp only [next] at h h'
      split at h
      · split at h'
        · exact Except.ok.inj (h.symm.trans h')
        · cases h'
      · cases h

theorem finish_eq_ok_iff {stop : Nat} {b : Builder} {root : Element} :
    b.finish stop = .ok root ↔ b = .finished root := by
  cases b <;> simp [finish]

end Builder

/-- Tags are a document exactly if the builder finishes a root. -/
theorem Element.ofTokens_eq_ok_iff {ts : List Token} {stop : Nat} {root : Element} :
    ofTokens ts stop = .ok root ↔ Builder.run .empty ts = .ok (.finished root) := by
  rw [ofTokens]
  cases Builder.run .empty ts with
  | error e => simp
  | ok b => simp [Builder.finish_eq_ok_iff]

/-- If there is a root after the cut, it is the one of the whole document. -/
theorem Element.ofTokens_eq_of_isCut {cutTokens ts : List Token} (h : IsCut cutTokens ts)
    {cutStop stop : Nat} {cutRoot root : Element}
    (hcut : ofTokens cutTokens cutStop = .ok cutRoot) (hwhole : ofTokens ts stop = .ok root) :
    cutRoot = root := by
  rw [ofTokens_eq_ok_iff] at hcut hwhole
  cases h with
  | between common behind =>
      rw [Builder.run_append hcut] at hwhole
      cases Builder.run_finished_eq_ok hwhole
      rfl
  | insideClosing common cutName name cutOffset offset behind =>
      obtain ⟨b, hcommon, hcutClose⟩ := Builder.run_append_eq_ok_iff.1 hcut
      obtain ⟨cutEnd, hcutNext, hcutRun⟩ := Builder.run_cons_eq_ok_iff.1 hcutClose
      rw [Builder.run_append hcommon] at hwhole
      obtain ⟨closed, hnext, hbehind⟩ := Builder.run_cons_eq_ok_iff.1 hwhole
      -- The shortened tag closes the root, so the tag it was cut from does too.
      cases hcutRun
      rw [← Builder.next_closing_eq_ok hcutNext hnext] at hbehind
      cases Builder.run_finished_eq_ok hbehind
      rfl

/-- A text is a document exactly if its tags are one. -/
theorem Element.ofText_eq_ok_iff {document : String} {root : Element} :
    Element.ofText document = .ok root ↔ ∃ ts, tokens document.toList = .ok ts ∧
      Element.ofTokens ts document.utf8ByteSize = .ok root := by
  rw [ofText]
  cases tokens document.toList with
  | error e => simp
  | ok ts =>
      cases hroot : Element.ofTokens ts document.utf8ByteSize with
      | error e => simp [hroot]
      | ok root => simp [hroot]

/-- A document that is cut off has the same root, with the same places, or none. -/
theorem Element.ofText_eq_of_prefix {cut document : String}
    (hbegin : cut.toList <+: document.toList) {cutRoot root : Element}
    (hcut : Element.ofText cut = .ok cutRoot) (h : Element.ofText document = .ok root) :
    cutRoot = root := by
  obtain ⟨rest, hrest⟩ := hbegin
  obtain ⟨cutTokens, hcutTokens, hcutRoot⟩ := ofText_eq_ok_iff.1 hcut
  obtain ⟨ts, hts, hroot⟩ := ofText_eq_ok_iff.1 h
  rw [← hrest] at hts
  exact ofTokens_eq_of_isCut (isCut_tokens hcutTokens hts) hcutRoot hroot

end ZoneGuard.Markup
