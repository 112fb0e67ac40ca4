import Mathlib
import ZoneGuard.Proofs.Markup.Truncation

/-!
# Tags where they stand

The scanner finds a tag exactly where the text of one stands between the constructs of a
document: for every tag that it has found the text is told, with the place where it begins.
-/

namespace ZoneGuard.Markup

namespace Scanner

/-! ## From tags to texts -/

/-- The characters behind a `<` begin an opening tag. -/
def OpensTag (cs : List Char) : Prop := ∃ c ∈ cs.head?, c ≠ '!' ∧ c ≠ '/' ∧ c ≠ '?'

theorem OpensTag.append {cs : List Char} (h : OpensTag cs) (ds : List Char) :
    OpensTag (cs ++ ds) := by
  obtain ⟨c, hc, hfirst⟩ := h
  exact ⟨c, List.mem_head?_append_of_mem_head? hc, hfirst⟩

/-- The characters behind its `<` that have been read of a tag. -/
inductive HasTaken : Construct → List Char → Prop
  | openingTag {content : List Char} (hfirst : OpensTag content)
      (hquotes : ClosesQuotes content) : HasTaken (.openingTag none) content
  | value {content value : List Char} {quote : Char} (hquote : quote = '"' ∨ quote = '\'')
      (hfirst : OpensTag (content ++ quote :: value)) (hquotes : ClosesQuotes content)
      (hvalue : quote ∉ value) : HasTaken (.openingTag (some quote)) (content ++ quote :: value)
  | closingTag {name : List Char} (hname : '>' ∉ name) : HasTaken .closingTag ('/' :: name)

/-- Outside quotes, a character is taken that may open some. -/
theorem hasTaken_extend {content : List Char} {c : Char} (hc : c ≠ '>')
    (hfirst : OpensTag (content ++ [c])) (hquotes : ClosesQuotes content) :
    HasTaken (extend (.openingTag none) c) (content ++ [c]) := by
  by_cases hquote : c = '"' ∨ c = '\''
  · have hextend : extend (.openingTag none) c = .openingTag (some c) := by
      simp [extend, hquote]
    rw [hextend]
    exact .value hquote hfirst hquotes List.not_mem_nil
  · have hextend : extend (.openingTag none) c = .openingTag none := by
      simp [extend, hquote]
    rw [hextend]
    rw [not_or] at hquote
    exact .openingTag hfirst (hquotes.append (.plain ⟨hc, hquote.1, hquote.2⟩ .nil))

/-- A character that is not the end of a tag is taken. -/
theorem HasTaken.extend {construct : Construct} {taken : List Char}
    (h : HasTaken construct taken.reverse) {c : Char}
    (hc : ¬ (c = '>' ∧ isEnd construct taken = true)) :
    HasTaken (extend construct c) (c :: taken).reverse := by
  rw [List.reverse_cons]
  generalize taken.reverse = content at h
  cases h with
  | openingTag hfirst hquotes =>
      have hbracket : c ≠ '>' := fun heq => hc ⟨heq, rfl⟩
      exact hasTaken_extend hbracket (hfirst.append _) hquotes
  | @value content value quote hquote hfirst hquotes hvalue =>
      have hfirst := hfirst.append [c]
      rw [List.append_assoc, List.cons_append] at hfirst ⊢
      by_cases heq : c = quote
      · subst heq
        have hextend : Scanner.extend (.openingTag (some c)) c = .openingTag none := by
          simp [Scanner.extend]
        rw [hextend]
        exact .openingTag hfirst (hquotes.append (.quoted hquote hvalue .nil))
      · have hextend : Scanner.extend (.openingTag (some quote)) c = .openingTag (some quote) := by
          simp [Scanner.extend, heq]
        rw [hextend]
        refine .value hquote hfirst hquotes fun hmem => ?_
        rcases List.mem_append.1 hmem with hmem | hmem
        · exact hvalue hmem
        · exact heq (List.mem_singleton.1 hmem).symm
  | closingTag hname =>
      have hbracket : c ≠ '>' := fun heq => hc ⟨heq, rfl⟩
      refine .closingTag fun hmem => ?_
      rcases List.mem_append.1 hmem with hmem | hmem
      · exact hname hmem
      · exact hbracket (List.mem_singleton.1 hmem).symm

/-- Where an opening tag ends, it is found and nothing else. -/
theorem complete_openingTag {quote? : Option Char} {stop : Nat} {content : List Char}
    {tags : List ScannedTag} (h : complete (.openingTag quote?) stop content = .ok tags) :
    ∃ tag, tags = [⟨tag, stop⟩] ∧ openingTag content = .ok tag := by
  simp only [complete] at h
  split at h
  · next tag hread =>
    cases h
    exact ⟨tag, rfl, hread⟩
  · cases h

/-- A tag that has been taken up to its end is complete. -/
theorem HasTaken.isTagText {construct : Construct} {taken : List Char}
    (h : HasTaken construct taken.reverse) (hend : isEnd construct taken = true) {stop : Nat}
    {tags : List ScannedTag} (hcomplete : complete construct stop taken.reverse = .ok tags) :
    ∃ tag, tags = [⟨tag, stop⟩] ∧ IsTagText ('<' :: (taken.reverse ++ ['>'])) tag := by
  generalize taken.reverse = content at h hcomplete ⊢
  cases h with
  | openingTag hfirst hquotes =>
      obtain ⟨tag, rfl, hread⟩ := complete_openingTag hcomplete
      refine ⟨tag, rfl, .opening (fun c hc => ?_) hquotes hread⟩
      obtain ⟨d, hd, hd'⟩ := hfirst
      rwa [Option.mem_unique hc hd]
  | value => cases hend
  | closingTag hname =>
      cases hcomplete
      exact ⟨_, rfl, .closing hname⟩

/-- A tag that has been found has its text in the characters, behind the ones in which the
tags before it are found. -/
def StandsIn (cs : List Char) (earlier : List ScannedTag) (t : ScannedTag) : Prop :=
  ∃ before text rest position, cs = before ++ text ++ rest ∧
    Scanner.initial.run before = .ok ⟨.text, position, earlier⟩ ∧ IsTagText text t.tag ∧
    t.stop = Text.byteLength (before ++ text)

/-- Where the construct begins that the scanner is in, and what it has read of it.  Nothing
needs to be known of constructs that are passed over. -/
inductive IsBehind (cs : List Char) (found : List ScannedTag) : Mode → Prop
  | text : IsBehind cs found .text
  | bracket {before : List Char} {position : Nat} (hcs : cs = before ++ ['<'])
      (hbefore : Scanner.initial.run before = .ok ⟨.text, position, found⟩) :
      IsBehind cs found .bracket
  | bang (start : Nat) : IsBehind cs found (.bang start)
  | insideTag {before taken : List Char} {position : Nat} {construct : Construct} (start : Nat)
      (hcs : cs = before ++ '<' :: taken.reverse)
      (hbefore : Scanner.initial.run before = .ok ⟨.text, position, found⟩)
      (htaken : HasTaken construct taken.reverse) :
      IsBehind cs found (.inside construct start taken)
  | insideOther {construct : Construct} (start : Nat) (taken : List Char)
      (hother : construct ≠ .closingTag ∧ ∀ quote?, construct ≠ .openingTag quote?) :
      IsBehind cs found (.inside construct start taken)

/-- What the scanner knows when it has read the characters. -/
structure HasRead (cs : List Char) (s : Scanner) : Prop where
  run : Scanner.initial.run cs = .ok s
  behind : IsBehind cs s.found s.mode
  stands : ∀ later t earlier, s.found = later ++ t :: earlier → StandsIn cs earlier t

/-- The last of the characters completes no tag, or one whose text ends with it. -/
inductive Finds (cs : List Char) (found : List ScannedTag) : Scanner → Prop
  | nothing (mode : Mode) (position : Nat) : Finds cs found ⟨mode, position, found⟩
  | tag {before text : List Char} {position : Nat} {tag : Tag} (stop : Nat)
      (hcs : cs = before ++ text)
      (hbefore : Scanner.initial.run before = .ok ⟨.text, position, found⟩)
      (htext : IsTagText text tag) : Finds cs found ⟨.text, stop, ⟨tag, stop⟩ :: found⟩

theorem StandsIn.append {cs : List Char} {earlier : List ScannedTag} {t : ScannedTag}
    (h : StandsIn cs earlier t) (ds : List Char) : StandsIn (cs ++ ds) earlier t := by
  obtain ⟨before, text, rest, position, rfl, hbefore, htext, hstop⟩ := h
  exact ⟨before, text, rest ++ ds, position, by simp, hbefore, htext, hstop⟩

/-- A construct that is no tag gives none. -/
theorem complete_eq_nil {construct : Construct}
    (hother : construct ≠ .closingTag ∧ ∀ quote?, construct ≠ .openingTag quote?) {stop : Nat}
    {content : List Char} {tags : List ScannedTag}
    (h : complete construct stop content = .ok tags) : tags = [] := by
  unfold complete at h
  split at h
  · exact absurd rfl hother.1
  · exact absurd rfl (hother.2 _)
  · obtain ⟨-, -, rfl⟩ := except_map_eq_ok_iff.1 h
    rfl

theorem extend_eq_self {construct : Construct}
    (hother : construct ≠ .closingTag ∧ ∀ quote?, construct ≠ .openingTag quote?) (c : Char) :
    extend construct c = construct := by
  unfold extend
  split
  · exact absurd rfl (hother.2 _)
  · exact absurd rfl (hother.2 _)
  · rfl

/-- The scanner counts the bytes that it has read. -/
theorem position_of_run {cs : List Char} {s : Scanner} (h : Scanner.initial.run cs = .ok s) :
    s.position = Text.byteLength cs :=
  (run_eq_ok h).1.trans (Nat.zero_add _)

/-- The state behind a bracket and one more character, unless they are a tag. -/
theorem isBehind_enter {before : List Char} {position : Nat} {found : List ScannedTag}
    (hbefore : Scanner.initial.run before = .ok ⟨.text, position, found⟩) {c : Char} (hc : c ≠ '>')
    (start : Nat) : IsBehind (before ++ ['<'] ++ [c]) found (enter start c) := by
  have hcs : before ++ ['<'] ++ [c] = before ++ '<' :: [c].reverse := by simp
  unfold enter
  split
  · exact .bang start
  · next hbang =>
    split
    · next hslash =>
      subst hslash
      exact .insideTag start hcs hbefore (.closingTag List.not_mem_nil)
    · next hslash =>
      split
      · exact .insideOther start _ (by simp)
      · next hquestion =>
        exact .insideTag start hcs hbefore
          (hasTaken_extend hc ⟨c, rfl, hbang, hslash, hquestion⟩ .nil)

/-- Behind a bracket, a `>` completes the tag without a name. -/
theorem next_of_bracket {before : List Char} {position stop : Nat} {found : List ScannedTag}
    (hbefore : Scanner.initial.run before = .ok ⟨.text, position, found⟩) {c : Char}
    {s' : Scanner} (hnext : next ⟨.bracket, stop, found⟩ c = .ok s') :
    IsBehind (before ++ ['<'] ++ [c]) s'.found s'.mode ∧
      Finds (before ++ ['<'] ++ [c]) found s' := by
  simp only [next] at hnext
  split at hnext
  · next hc =>
    subst hc
    obtain ⟨tags, htags, rfl⟩ := except_map_eq_ok_iff.1 hnext
    obtain ⟨tag, rfl, hread⟩ := complete_openingTag htags
    have htext : IsTagText ('<' :: ([] ++ ['>'])) tag := .opening (by simp) .nil hread
    exact ⟨.text, .tag _ (by simp) hbefore htext⟩
  · next hc =>
    cases hnext
    exact ⟨isBehind_enter hbefore hc stop, .nothing _ _⟩

/-- Inside a tag, its end completes it. -/
theorem next_of_insideTag {before taken : List Char} {start position stop : Nat}
    {construct : Construct} {found : List ScannedTag}
    (hbefore : Scanner.initial.run before = .ok ⟨.text, position, found⟩)
    (htaken : HasTaken construct taken.reverse) {c : Char} {s' : Scanner}
    (hnext : next ⟨.inside construct start taken, stop, found⟩ c = .ok s') :
    IsBehind (before ++ '<' :: taken.reverse ++ [c]) s'.found s'.mode ∧
      Finds (before ++ '<' :: taken.reverse ++ [c]) found s' := by
  simp only [next] at hnext
  split at hnext
  · next hend =>
    rw [Bool.and_eq_true, decide_eq_true_eq] at hend
    obtain ⟨rfl, hend⟩ := hend
    obtain ⟨tags, htags, rfl⟩ := except_map_eq_ok_iff.1 hnext
    obtain ⟨tag, rfl, htext⟩ := htaken.isTagText hend htags
    exact ⟨.text, .tag _ (by simp) hbefore htext⟩
  · next hend =>
    cases hnext
    exact ⟨.insideTag start (by simp) hbefore (htaken.extend (by simpa using hend)),
      .nothing _ _⟩

/-- Inside another construct, no tag is completed. -/
theorem next_of_insideOther {construct : Construct}
    (hother : construct ≠ .closingTag ∧ ∀ quote?, construct ≠ .openingTag quote?)
    {start stop : Nat} {taken : List Char} {found : List ScannedTag} {c : Char} {s' : Scanner}
    (hnext : next ⟨.inside construct start taken, stop, found⟩ c = .ok s') (cs : List Char) :
    IsBehind cs s'.found s'.mode ∧ Finds cs found s' := by
  simp only [next] at hnext
  split at hnext
  · obtain ⟨tags, htags, rfl⟩ := except_map_eq_ok_iff.1 hnext
    cases complete_eq_nil hother htags
    exact ⟨.text, .nothing _ _⟩
  · cases hnext
    rw [extend_eq_self hother]
    exact ⟨.insideOther start _ hother, .nothing _ _⟩

theorem next_of_bang {start stop : Nat} {found : List ScannedTag} {c : Char} {s' : Scanner}
    (hnext : next ⟨.bang start, stop, found⟩ c = .ok s') (cs : List Char) :
    IsBehind cs s'.found s'.mode ∧ Finds cs found s' := by
  obtain ⟨mode, hmode, rfl⟩ := except_map_eq_ok_iff.1 hnext
  refine ⟨?_, .nothing _ _⟩
  unfold enterDeclaration at hmode
  split at hmode
  · cases hmode
    exact .insideOther start _ (by simp)
  · split at hmode
    · cases hmode
      exact .insideOther start _ (by simp)
    · split at hmode
      · cases hmode
        exact .insideOther start _ (by simp)
      · cases hmode

/-- One more character, by the mode before it. -/
theorem IsBehind.next {cs : List Char} {mode : Mode} {position : Nat} {found : List ScannedTag}
    (h : IsBehind cs found mode)
    (hrun : Scanner.initial.run cs = .ok ⟨mode, position, found⟩) {c : Char} {s' : Scanner}
    (hnext : Scanner.next ⟨mode, position, found⟩ c = .ok s') :
    IsBehind (cs ++ [c]) s'.found s'.mode ∧ Finds (cs ++ [c]) found s' := by
  cases h with
  | text =>
      cases hnext
      refine ⟨?_, .nothing _ _⟩
      dsimp only
      split
      · next hc =>
        subst hc
        exact .bracket rfl hrun
      · exact .text
  | bracket hcs hbefore => exact hcs ▸ next_of_bracket hbefore hnext
  | bang start => exact next_of_bang hnext _
  | insideTag start hcs hbefore htaken => exact hcs ▸ next_of_insideTag hbefore htaken hnext
  | insideOther start taken hother => exact next_of_insideOther hother hnext _

/-- The tags found stay where they stand, and one that is completed has its place. -/
theorem HasRead.next {cs : List Char} {s s' : Scanner} (h : HasRead cs s) {c : Char}
    (hnext : s.next c = .ok s') : HasRead (cs ++ [c]) s' := by
  have hrun : Scanner.initial.run (cs ++ [c]) = .ok s' :=
    (run_append h.run [c]).trans (run_cons hnext [])
  have hposition := position_of_run hrun
  obtain ⟨hbehind, hfinds⟩ := h.behind.next h.run hnext
  refine ⟨hrun, hbehind, fun later t earlier heq => ?_⟩
  cases hfinds with
  | nothing mode position => exact (h.stands later t earlier heq).append [c]
  | tag stop hcs hbefore htext =>
      cases later with
      | nil =>
          obtain ⟨rfl, rfl⟩ := List.cons.inj heq
          exact ⟨_, _, [], _, by rw [hcs, List.append_nil], hbefore, htext,
            by rw [← hcs, ← hposition]⟩
      | cons u later => exact (h.stands later t earlier (List.cons.inj heq).2).append [c]

/-- Whatever the scanner has read, it knows the places of the tags in it. -/
theorem hasRead_of_run {cs : List Char} {s : Scanner} (h : Scanner.initial.run cs = .ok s) :
    HasRead cs s := by
  induction cs using List.reverseRecOn generalizing s with
  | nil =>
      cases h
      exact ⟨rfl, .text, by simp [Scanner.initial]⟩
  | append_singleton cs c ih =>
      obtain ⟨between, hcs, hc⟩ := run_append_eq_ok_iff.1 h
      obtain ⟨s', hnext, hlast⟩ := run_cons_eq_ok_iff.1 hc
      cases hlast
      exact (ih hcs).next hnext

end Scanner

/-! ## Documents -/

/-- The text, followed by `behind`, is that of the tag.  A closing tag needs no bracket at the
end of a document. -/
inductive IsTagTextBefore (behind : List Char) : List Char → Tag → Prop
  | complete {text : List Char} {tag : Tag} (h : IsTagText text tag) :
      IsTagTextBefore behind text tag
  | unfinished {name : List Char} (hname : '>' ∉ name) (hbehind : behind = []) :
      IsTagTextBefore behind ('<' :: '/' :: name) (closingTag name)

/-- Every tag of a document stands behind the text in which the tags before it are found. -/
theorem exists_isTagTextBefore_of_scan {document : List Char} {tags : List ScannedTag}
    (h : scan document = .ok tags) {earlier later : List ScannedTag} {t : ScannedTag}
    (hsplit : tags = earlier ++ t :: later) :
    ∃ before text behind position, withoutMark document = before ++ text ++ behind ∧
      Scanner.initial.run before = .ok ⟨.text, position, earlier.reverse⟩ ∧
      IsTagTextBefore behind text t.tag ∧ t.stop = Text.byteLength (before ++ text) := by
  obtain ⟨s, hrun, hfinish⟩ := scan_eq_ok_iff.1 h
  obtain ⟨-, hbehind, hstands⟩ := Scanner.hasRead_of_run hrun
  have hfound {later' : List ScannedTag} (hreverse : s.found.reverse = earlier ++ t :: later') :
      ∃ before text behind position, withoutMark document = before ++ text ++ behind ∧
        Scanner.initial.run before = .ok ⟨.text, position, earlier.reverse⟩ ∧
        IsTagTextBefore behind text t.tag ∧ t.stop = Text.byteLength (before ++ text) := by
    have heq : s.found = later'.reverse ++ t :: earlier.reverse := by
      rw [← List.reverse_reverse s.found, hreverse]
      simp
    obtain ⟨before, text, behind, position, hdocument, hbefore, htext, hstop⟩ :=
      hstands _ _ _ heq
    exact ⟨before, text, behind, position, hdocument, hbefore, .complete htext, hstop⟩
  rcases Scanner.finish_eq_ok hfinish with rfl | ⟨start, taken, hmode, rfl⟩
  · exact hfound hsplit
  · rcases List.eq_nil_or_concat' later with rfl | ⟨between, last, rfl⟩
    · -- The tag is the unfinished one.
      obtain ⟨rfl, hlast⟩ := List.append_inj' hsplit rfl
      rw [hmode] at hbehind
      cases hbehind with
      | @insideTag before taken position construct start hcs hbefore htaken =>
          have hposition := Scanner.position_of_run hrun
          rw [← List.singleton_inj.1 hlast, hposition, List.reverse_reverse, hcs]
          generalize taken.reverse = content at htaken
          cases htaken with
          | closingTag hname =>
              exact ⟨before, _, [], position, (List.append_nil _).symm, hbefore,
                .unfinished hname rfl, rfl⟩
      | insideOther start taken hother => exact absurd rfl hother.1
    · rw [← List.cons_append, ← List.append_assoc] at hsplit
      exact hfound (List.append_inj' hsplit rfl).1

/-- How many bytes of the document are not counted. -/
def uncounted (document : List Char) : Nat :=
  Text.byteLength document - Text.byteLength (withoutMark document)

/-- The characters end between two constructs, and the tags are those in them. -/
def ContainsTags (cs : List Char) (tags : List Tag) : Prop :=
  ∃ s, Scanner.initial.run (withoutMark cs) = .ok s ∧ s.mode = .text ∧
    s.found.reverse.map (·.tag) = tags

/-- The mark of a document, or nothing, is that of every beginning of the document. -/
theorem exists_eq_append_withoutMark (document : List Char) :
    ∃ mark, document = mark ++ withoutMark document ∧
      ∀ before, before <+: withoutMark document → withoutMark (mark ++ before) = before := by
  cases document with
  | nil => exact ⟨[], rfl, fun before h => by rw [List.prefix_nil.1 h]; rfl⟩
  | cons c cs =>
      rw [withoutMark_cons]
      split
      · next hmark =>
        subst hmark
        exact ⟨['\uFEFF'], rfl, fun before _ => rfl⟩
      · next hmark =>
        refine ⟨[], rfl, fun before hbefore => ?_⟩
        cases before with
        | nil => rfl
        | cons d before =>
            obtain ⟨rfl, -⟩ := List.cons_prefix_cons.1 hbefore
            rw [List.nil_append, withoutMark_cons, if_neg hmark]

/-- Every tag that is reported has its text in the document, behind the text with the tags
before it.  Where it ends, without the bytes that are not counted, its place is looked for. -/
theorem exists_isTagTextBefore_of_tokens {document : List Char} {ts : List Token}
    (h : tokens document = .ok ts) {earlier later : List Token} {t : Token}
    (hsplit : ts = earlier ++ t :: later) :
    ∃ before text behind stop, document = before ++ text ++ behind ∧
      ContainsTags before (earlier.map (·.tag)) ∧ IsTagTextBefore behind text t.tag ∧
      stop + uncounted document = Text.byteLength (before ++ text) ∧
      t.offset = tagOffset document stop := by
  obtain ⟨tags, hscan, htokens⟩ := tokens_eq_ok_iff.1 h
  rw [hsplit] at htokens
  obtain ⟨scannedEarlier, scannedRest, rfl, hearlier, hrest⟩ := List.map_eq_append_iff.1 htokens
  obtain ⟨scanned, scannedLater, rfl, rfl, hlater⟩ := List.map_eq_cons_iff.1 hrest
  obtain ⟨before, text, behind, position, hdocument, hbefore, htext, hstop⟩ :=
    exists_isTagTextBefore_of_scan hscan rfl
  obtain ⟨mark, hmark, hbegin⟩ := exists_eq_append_withoutMark document
  have hwithout : withoutMark (mark ++ before) = before :=
    hbegin before (hdocument ▸ (List.prefix_append before text).trans (List.prefix_append _ _))
  refine ⟨mark ++ before, text, behind, scanned.stop, ?whole,
    ⟨⟨.text, position, scannedEarlier.reverse⟩, ?run, rfl, ?tags⟩, htext, ?stop, rfl⟩
  case whole =>
    rw [hmark, hdocument]
    simp
  case run => rw [hwithout, hbefore]
  case tags =>
    rw [List.reverse_reverse, ← hearlier, List.map_map]
    rfl
  case stop =>
    have hlength := congrArg Text.byteLength hmark
    rw [Text.byteLength_append] at hlength
    rw [hstop, uncounted, List.append_assoc, Text.byteLength_append mark]
    omega

/-- A tag does not begin with a mark. -/
theorem IsTagText.withoutMark_append {text : List Char} {tag : Tag} (h : IsTagText text tag)
    (before : List Char) : withoutMark (before ++ text) = withoutMark before ++ text := by
  cases before with
  | nil => cases h <;> rfl
  | cons c before => exact Markup.withoutMark_append (List.cons_ne_nil _ _) text

/-- Behind what ends between two constructs, the text of a tag adds the tag. -/
theorem ContainsTags.append {before text : List Char} {tags : List Tag} {tag : Tag}
    (h : ContainsTags before tags) (htext : IsTagText text tag) :
    ContainsTags (before ++ text) (tags ++ [tag]) := by
  obtain ⟨s, hrun, hmode, rfl⟩ := h
  obtain ⟨mode, position, found⟩ := s
  cases hmode
  refine ⟨⟨.text, position + Text.byteLength text,
    ⟨tag, position + Text.byteLength text⟩ :: found⟩, ?_, rfl, ?_⟩
  · rw [htext.withoutMark_append, Scanner.run_append hrun, Scanner.run_of_isTagText htext]
  · rw [List.reverse_cons, List.map_append]
    rfl

/-- A text that contains tags is read as these tags. -/
theorem ContainsTags.exists_tokens {cs : List Char} {tags : List Tag} (h : ContainsTags cs tags) :
    ∃ ts, tokens cs = .ok ts ∧ ts.map (·.tag) = tags := by
  obtain ⟨⟨mode, position, found⟩, hrun, hmode, rfl⟩ := h
  cases hmode
  refine ⟨_, tokens_eq_ok_iff.2 ⟨_, scan_eq_ok_iff.2 ⟨_, hrun, rfl⟩, rfl⟩, ?_⟩
  rw [List.map_map]
  rfl

/-- The tags of a document begin with those of any part that ends between two constructs. -/
theorem ContainsTags.prefix_of_tokens {before behind : List Char} {tags : List Tag}
    (h : ContainsTags before tags) {ts : List Token}
    (htokens : tokens (before ++ behind) = .ok ts) : tags <+: ts.map (·.tag) := by
  obtain ⟨s, hrun, hmode, rfl⟩ := h
  obtain ⟨scanned, hscan, rfl⟩ := tokens_eq_ok_iff.1 htokens
  obtain ⟨s', hrun', hfinish⟩ := scan_eq_ok_iff.1 hscan
  by_cases hempty : before = []
  · subst hempty
    cases hrun
    exact List.nil_prefix
  · rw [withoutMark_append hempty, Scanner.run_append hrun] at hrun'
    have hprefix := (Scanner.found_prefix_of_run hrun' hfinish).map (·.tag)
    rw [List.map_map]
    exact hprefix

/-! ## What tags begin with -/

def Tag.beginning : Tag → List Char
  | .opening name _ _ => '<' :: name.toList
  | .closing name => '<' :: '/' :: name.toList

theorem isPrefix_beginning_closingTag (name : List Char) :
    (closingTag name).beginning <+: '<' :: '/' :: name := by
  rw [closingTag, Tag.beginning, String.toList_ofList]
  refine (List.prefix_cons_inj _).2 ((List.prefix_cons_inj _).2 ?_)
  split
  · exact List.prefix_rfl
  · rw [← List.reverse_suffix, List.reverse_reverse]
    exact List.dropWhile_suffix _

/-- An opening tag begins with its bracket and its name. -/
theorem isPrefix_beginning_openingTag {content : List Char} {tag : Tag}
    (h : openingTag content = .ok tag) : tag.beginning <+: '<' :: content := by
  obtain ⟨name, _, _, ⟨_, _, _, _, _⟩, rfl⟩ := openingTag_eq_ok_iff.1 h
  rw [Tag.beginning, String.toList_ofList, List.append_assoc]
  exact (List.prefix_cons_inj _).2 (List.prefix_append _ _)

/-- The name of a tag follows its bracket. -/
theorem IsTagTextBefore.isPrefix_beginning {behind text : List Char} {tag : Tag}
    (h : IsTagTextBefore behind text tag) : tag.beginning <+: text := by
  cases h with
  | complete h =>
      cases h with
      | opening hfirst hquotes hread =>
          refine (isPrefix_beginning_openingTag hread).trans ?_
          rw [← List.cons_append]
          exact List.prefix_append _ _
      | @closing name hname =>
          refine (isPrefix_beginning_closingTag name).trans ?_
          rw [← List.cons_append, ← List.cons_append]
          exact List.prefix_append _ _
  | unfinished hname hbehind => exact isPrefix_beginning_closingTag _

end ZoneGuard.Markup
