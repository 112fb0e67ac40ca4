import Mathlib
import ZoneGuard.Proofs.Markup.FoundTags

/-!
# Attribute values in documents

The opening tags that are reported of a document are those whose texts stand in it, each with
the attributes that its text spells.  Of a value that consists of plain characters, known and
unknown references, the meaning is reported if every reference can be read.  One that cannot
makes the whole value be reported as it is written.
-/

namespace ZoneGuard.Markup

inductive IsOpeningText : List Char → List Char → List (List Char × List Char) → Bool → Prop
  | intro {content name : List Char} {attributes : List (List Char × List Char)}
      {selfClosing : Bool} (hfirst : ∀ c ∈ content.head?, c ≠ '!' ∧ c ≠ '/' ∧ c ≠ '?')
      (hquotes : ClosesQuotes content)
      (hcontent : IsOpeningContent content name attributes selfClosing) :
      IsOpeningText ('<' :: (content ++ ['>'])) name attributes selfClosing

theorem isTagText_opening_iff {text : List Char} {name : String}
    {attributes : List (String × String)} {selfClosing : Bool} :
    IsTagText text (.opening name attributes selfClosing) ↔
      ∃ writtenName written, IsOpeningText text writtenName written selfClosing ∧
        name = String.ofList writtenName ∧ attributes = written.map reportedAttribute := by
  constructor
  · intro h
    cases h with
    | opening hfirst hquotes hread =>
        obtain ⟨writtenName, written, selfClosing', hcontent, htag⟩ :=
          openingTag_eq_ok_iff.1 hread
        cases htag
        exact ⟨writtenName, written, .intro hfirst hquotes hcontent, rfl, rfl⟩
  · rintro ⟨writtenName, written, ⟨hfirst, hquotes, hcontent⟩, rfl, rfl⟩
    exact .opening hfirst hquotes (openingTag_eq_ok_iff.2 ⟨_, _, _, hcontent, rfl⟩)

/-- An opening tag is reported behind others exactly if its text stands behind theirs. -/
theorem prefix_tags_iff {document : List Char} {ts : List Token} (h : tokens document = .ok ts)
    {tags : List Tag} {name : String} {attributes : List (String × String)}
    {selfClosing : Bool} :
    tags ++ [.opening name attributes selfClosing] <+: ts.map (·.tag) ↔
      ∃ before text behind writtenName written, document = before ++ text ++ behind ∧
        ContainsTags before tags ∧ IsOpeningText text writtenName written selfClosing ∧
        name = String.ofList writtenName ∧ attributes = written.map reportedAttribute := by
  constructor
  · rintro ⟨laterTags, hsplit⟩
    rw [List.append_assoc, List.singleton_append, eq_comm] at hsplit
    obtain ⟨earlier, rest, rfl, rfl, hrest⟩ := List.map_eq_append_iff.1 hsplit
    obtain ⟨t, later, rfl, htag, -⟩ := List.map_eq_cons_iff.1 hrest
    obtain ⟨before, text, behind, -, hdocument, hbefore, htext, -, -⟩ :=
      exists_isTagTextBefore_of_tokens h rfl
    rw [htag] at htext
    cases htext with
    | complete htext =>
        obtain ⟨writtenName, written, hopening, hname, hattributes⟩ :=
          isTagText_opening_iff.1 htext
        exact ⟨before, text, behind, writtenName, written, hdocument, hbefore, hopening, hname,
          hattributes⟩
  · rintro ⟨before, text, behind, writtenName, written, rfl, hbefore, hopening, hname,
      hattributes⟩
    have htext := isTagText_opening_iff.2 ⟨writtenName, written, hopening, hname, hattributes⟩
    exact (hbefore.append htext).prefix_of_tokens h

/-- Wherever a construct may begin, an opening tag is accepted, whatever its values are. -/
theorem exists_tokens_of_isOpeningText {before text : List Char} {tags : List Tag}
    {name : List Char} {attributes : List (List Char × List Char)} {selfClosing : Bool}
    (hbefore : ContainsTags before tags) (htext : IsOpeningText text name attributes selfClosing) :
    ∃ ts, tokens (before ++ text) = .ok ts := by
  have htag := isTagText_opening_iff.2 ⟨name, attributes, htext, rfl, rfl⟩
  obtain ⟨ts, hts, -⟩ := (hbefore.append htag).exists_tokens
  exact ⟨ts, hts⟩

/-- The attribute is reported with its key, and its value is read as a whole, which says what
is reported of a value that consists of pieces. -/
structure IsReadAs (a : List Char × List Char) (reported : String × String) : Prop where
  key : reported.1 = String.ofList a.1
  value : reported.2 = valueText a.2
  pieces : ∀ pieces : List Piece, a.2 = pieces.flatMap Piece.write →
    IsReportedAs pieces reported.2

theorem isReadAs_reportedAttribute (a : List Char × List Char) :
    IsReadAs a (reportedAttribute a) where
  key := rfl
  value := rfl
  pieces := fun pieces hpieces => by
    rw [reportedAttribute, hpieces]
    exact isReportedAs_valueText pieces

theorem forall₂_isReadAs_iff {written : List (List Char × List Char)}
    {attributes : List (String × String)} :
    List.Forall₂ IsReadAs written attributes ↔ attributes = written.map reportedAttribute := by
  constructor
  · intro h
    induction h with
    | nil => rfl
    | cons hread _ ih => rw [List.map_cons, ← ih, reportedAttribute, ← hread.key, ← hread.value]
  · rintro rfl
    induction written with
    | nil => exact .nil
    | cons a written ih => exact .cons (isReadAs_reportedAttribute a) ih

/-- Behind other tags, an opening tag is reported exactly if it stands in the document behind
them and its attributes are read as reported.  No value keeps a tag from being reported. -/
theorem tokens_values {document : List Char} {ts : List Token} (h : tokens document = .ok ts)
    {tags : List Tag} {name : String} {attributes : List (String × String)}
    {selfClosing : Bool} :
    (tags ++ [.opening name attributes selfClosing] <+: ts.map (·.tag) ↔
      ∃ before text behind writtenName written, document = before ++ text ++ behind ∧
        ContainsTags before tags ∧ IsOpeningText text writtenName written selfClosing ∧
        name = String.ofList writtenName ∧ List.Forall₂ IsReadAs written attributes) ∧
      ∀ before text writtenName written, ContainsTags before tags →
        IsOpeningText text writtenName written selfClosing →
        ∃ cut, tokens (before ++ text) = .ok cut := by
  refine ⟨?_, fun before text writtenName written => exists_tokens_of_isOpeningText⟩
  simp only [forall₂_isReadAs_iff]
  exact prefix_tags_iff h

/-- Two known references and an unknown one between them. -/
def halfKnownValue : List Piece :=
  [.known "amp".toList '&' (.named (by decide)),
    .unknown "nbsp".toList (by decide) (not_refersTo (by decide) (by decide)),
    .known "#65".toList 'A' (.decimal (by decide) ⟨[6, 5], rfl, rfl⟩)]

/-- Plain characters and a known reference. -/
def knownValue : List Piece :=
  [.plain ['a'] (by decide), .known "#x42".toList 'B' (.hexadecimal (by decide) ⟨[4, 2], rfl, rfl⟩)]

/-- A tag with these values, and others around it. -/
def valuesDocument : String := "<r><f label=\"&amp;&nbsp;&#65;\" x='a&#x42;'/></r>"

def valuesDocumentTokens : List Token :=
  [⟨.opening "r" [] false, 0⟩,
    ⟨.opening "f" [("label", "&amp;&nbsp;&#65;"), ("x", "aB")] true, 3⟩, ⟨.closing "r", 44⟩]

theorem tokens_values_valuesDocument :
    tokens valuesDocument.toList = .ok valuesDocumentTokens ∧
      (∃ before text behind writtenName written,
        valuesDocument.toList = before ++ text ++ behind ∧
        ContainsTags before [.opening "r" [] false] ∧
        IsOpeningText text writtenName written true ∧
        List.Forall₂ IsReadAs written [("label", "&amp;&nbsp;&#65;"), ("x", "aB")] ∧
        ∃ cut, tokens (before ++ text) = .ok cut) ∧
      IsReadAs ("label".toList, halfKnownValue.flatMap Piece.write)
        ("label", "&amp;&nbsp;&#65;") ∧
      IsReadAs ("x".toList, knownValue.flatMap Piece.write) ("x", "aB") := by
  have htokens : tokens valuesDocument.toList = .ok valuesDocumentTokens := by decide +kernel
  have hprefix : [.opening "r" [] false] ++
      [.opening "f" [("label", "&amp;&nbsp;&#65;"), ("x", "aB")] true] <+:
        valuesDocumentTokens.map (·.tag) := by decide
  obtain ⟨htags, haccepted⟩ := tokens_values htokens
  obtain ⟨before, text, behind, writtenName, written, hdocument, hbefore, hopening, -, hread⟩ :=
    htags.1 hprefix
  exact ⟨htokens, ⟨before, text, behind, writtenName, written, hdocument, hbefore, hopening,
    hread, haccepted _ _ _ _ hbefore hopening⟩, isReadAs_reportedAttribute _,
    isReadAs_reportedAttribute _⟩

/-- An unknown reference in a value changes how a known one beside it is read. -/
theorem exists_value_unlike_meaning :
    ∃ (pieces : List Piece) (document : String),
      document.toList = "<field label=\"".toList ++ pieces.flatMap Piece.write ++ "\"/>".toList ∧
      tokens document.toList = .ok [⟨.opening "field" [("label", "&bogus;&lt;")] true, 0⟩] ∧
      String.ofList (pieces.flatMap Piece.meaning) = "&bogus;<" :=
  ⟨[.unknown "bogus".toList (by decide) (not_refersTo (by decide) (by decide)),
    .known "lt".toList '<' (.named (by decide))], "<field label=\"&bogus;&lt;\"/>",
    by decide +kernel, by decide +kernel, by decide +kernel⟩

end ZoneGuard.Markup
