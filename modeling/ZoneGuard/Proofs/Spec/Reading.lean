import Mathlib
import ZoneGuard.Proofs.Spec.Content
import ZoneGuard.Proofs.Text.Lines

/-!
# Reading a specification

A specification is read line by line.  Signatures are declared by lines that begin with
their keywords, and a fact about an atom is an indented line that begins with the atom.
No line of another form can be taken for one of these.
-/

namespace ZoneGuard.Spec

open Text (IsLine isLine_append isLine_intercalate_iff)

/-! ## Declarations -/

def signatureKeywords : List String :=
  ["abstract sig ", "one sig ", "lone sig ", "some sig ", "sig "]

/-- What follows the keywords of a signature. -/
def signatureRest? (cs : List Char) : Option (List Char) :=
  signatureKeywords.findSome? fun keywords => List.isPrefixOf? keywords.toList cs

/-- The words that a list of names ends before. -/
def stopWords : List String := ["extends", "\x7b", "\x7b\x7d"]

def declaredNames (line : String) : List String :=
  match signatureRest? line.toList with
  | none => []
  | some rest =>
    ((Text.words (String.ofList rest)).takeWhile (· ∉ stopWords)).map fun word =>
      String.ofList (word.toList.filter (· ≠ ','))

structure IsName (name : String) : Prop where
  isWordChar : ∀ c ∈ name.toList, isWordChar c = true
  ne_extends : name ≠ "extends"

theorem IsName.isLine {name : String} (h : IsName name) : IsLine name :=
  isLine_of_isWordChar h.isWordChar

/-- A line that begins with none of the letters that keywords begin with declares
nothing. -/
theorem declaredNames_of_head? {line : String}
    (h : ∀ c ∈ line.toList.head?, c ∉ ['a', 'l', 'o', 's']) : declaredNames line = [] := by
  have hrest : signatureRest? line.toList = none := by
    refine List.findSome?_eq_none_iff.2 fun keywords hkeywords => ?_
    have hinitial : ∀ keywords ∈ signatureKeywords,
        keywords.toList.head?.any (['a', 'l', 'o', 's'].contains ·) = true := by
      apply Text.forall_of_spells fun cs => cs.head?.any (['a', 'l', 'o', 's'].contains ·) = true
      · repeat' constructor
      · decide +kernel
    obtain ⟨k, hhead, hk⟩ := (Option.any_eq_true _ _).1 (hinitial keywords hkeywords)
    obtain ⟨ks, hks⟩ := List.head?_eq_some_iff.1 hhead
    cases hline : line.toList with
    | nil =>
        rw [hks]
        rfl
    | cons c cs =>
        rw [hline] at h
        have hne : (k == c) = false := beq_false_of_ne fun heq =>
          h c rfl (heq ▸ List.contains_iff_mem.1 hk)
        rw [hks, List.isPrefixOf?, hne]
        rfl
  rw [declaredNames, hrest]

theorem head?_append {s : String} {c : Char} (h : s.toList.head? = some c) (t : String) :
    (s ++ t).toList.head? = some c := by
  rw [String.toList_append, List.head?_append, h, Option.some_or]

theorem head?_indent (text : String) : (indent text).toList.head? = some ' ' := by
  have hspaces : "    ".toList.head? = some ' ' := by decide
  exact head?_append hspaces text

theorem indent_ne_empty (text : String) : indent text ≠ "" := by
  intro heq
  have hhead := congrArg (fun line : String => line.toList.head?) heq
  rw [head?_indent] at hhead
  cases hhead

/-- An indented line declares nothing. -/
theorem declaredNames_indent (text : String) : declaredNames (indent text) = [] := by
  refine declaredNames_of_head? fun c hc => ?_
  rw [head?_indent] at hc
  cases hc
  decide

/-- The line begins neither with a space nor like a signature. -/
def StartsPlain (line : String) : Prop :=
  ∃ c, line.toList.head? = some c ∧ c ∉ [' ', 'a', 'l', 'o', 's']

namespace StartsPlain

variable {line : String}

theorem ofList {c : Char} {cs : List Char} (h : c ∉ [' ', 'a', 'l', 'o', 's']) :
    StartsPlain (String.ofList (c :: cs)) :=
  ⟨c, by rw [String.toList_ofList, List.head?_cons], h⟩

theorem append (h : StartsPlain line) (t : String) : StartsPlain (line ++ t) := by
  obtain ⟨c, hhead, hc⟩ := h
  exact ⟨c, head?_append hhead t, hc⟩

theorem declaredNames_eq_nil (h : StartsPlain line) : declaredNames line = [] := by
  obtain ⟨c, hhead, hc⟩ := h
  refine declaredNames_of_head? fun c' hc' => ?_
  obtain rfl : c = c' := Option.some.inj (hhead.symm.trans hc')
  exact List.not_mem_of_not_mem_cons hc

theorem ne_indent (h : StartsPlain line) (text : String) : indent text ≠ line := by
  rintro rfl
  obtain ⟨c, hhead, hc⟩ := h
  rw [head?_indent] at hhead
  cases hhead
  exact hc List.mem_cons_self

end StartsPlain

theorem flatMap_declaredNames_braced {head : String} {body : List String}
    (h : ∀ line ∈ body, declaredNames line = []) :
    (braced head body).flatMap declaredNames = declaredNames (head ++ " \x7b") := by
  have hend : declaredNames "\x7d" = [] := (StartsPlain.ofList (by decide)).declaredNames_eq_nil
  rw [braced, List.flatMap_append, List.flatMap_cons, List.flatMap_eq_nil_iff.2 h,
    List.flatMap_singleton, hend, List.append_nil, List.append_nil]

/-- Names are the words of their list, with commas behind all but the last. -/
theorem words_intercalate_comma {names : List String} (hne : names ≠ [])
    (h : ∀ name ∈ names, IsName name) (rest : String) :
    Text.words (", ".intercalate names ++ " " ++ rest) = separated names ++ Text.words rest := by
  have hspace {name : String} (hname : IsName name) : ' ' ∉ name.toList :=
    notMem_of_isWordChar hname.isWordChar (by decide)
  induction names with
  | nil => exact absurd rfl hne
  | cons name names ih =>
      obtain ⟨hname, hrest⟩ := List.forall_mem_cons.1 h
      cases names with
      | nil =>
          rw [String.intercalate_singleton, Text.words_append (hspace hname)]
          rfl
      | cons next names =>
          have hcomma : ' ' ∉ (name ++ ",").toList := by
            rw [String.toList_append, List.mem_append, not_or]
            exact ⟨hspace hname, by decide⟩
          have hsplit (t : String) : name ++ ", " ++ t ++ " " ++ rest =
              name ++ "," ++ " " ++ (t ++ " " ++ rest) := by
            apply String.toList_injective
            simp
          rw [String.intercalate_cons_cons, hsplit, Text.words_append hcomma,
            ih (List.cons_ne_nil _ _) hrest]
          rfl

theorem mem_separated {names : List String} {word : String} (h : word ∈ separated names) :
    ∃ name ∈ names, word = name ∨ word = name ++ "," := by
  induction names with
  | nil => cases h
  | cons name names ih =>
      cases names with
      | nil => exact ⟨name, List.mem_cons_self, Or.inl (List.mem_singleton.1 h)⟩
      | cons next names =>
          rcases List.mem_cons.1 h with rfl | h
          · exact ⟨name, List.mem_cons_self, Or.inr rfl⟩
          · obtain ⟨name', hname', hword⟩ := ih h
            exact ⟨name', List.mem_cons_of_mem name hname', hword⟩

/-- Names are told from what follows them, with or without a comma. -/
theorem notMem_stopWords_of_mem_separated {names : List String}
    (h : ∀ name ∈ names, IsName name) {word : String} (hword : word ∈ separated names) :
    word ∉ stopWords := by
  obtain ⟨name, hname, rfl | rfl⟩ := mem_separated hword
  · have hbrace : '\x7b' ∉ word.toList := notMem_of_isWordChar (h word hname).isWordChar (by decide)
    simp only [stopWords, List.mem_cons, List.not_mem_nil, or_false, not_or]
    refine ⟨(h word hname).ne_extends, ?_, ?_⟩
    · rintro rfl
      exact hbrace (by decide)
    · rintro rfl
      exact hbrace (by decide)
  · have hcomma : ',' ∈ (name ++ ",").toList := by
      rw [String.toList_append]
      exact List.mem_append_right _ List.mem_cons_self
    intro hstop
    have hnone : ∀ stop ∈ stopWords, ',' ∉ stop.toList := by decide
    exact hnone _ hstop hcomma

/-- Names that are separated by commas are read back. -/
theorem map_filter_separated {names : List String} (h : ∀ name ∈ names, IsName name) :
    (separated names).map (fun word => String.ofList (word.toList.filter (· ≠ ','))) = names := by
  induction names with
  | nil => rfl
  | cons name names ih =>
      obtain ⟨hname, hrest⟩ := List.forall_mem_cons.1 h
      have hcomma : ',' ∉ name.toList := notMem_of_isWordChar hname.isWordChar (by decide)
      have hfilter : name.toList.filter (· ≠ ',') = name.toList := by
        refine List.filter_eq_self.2 fun c hc => decide_eq_true ?_
        rintro rfl
        exact hcomma hc
      cases names with
      | nil => simp only [separated, List.map_singleton, hfilter, String.ofList_toList]
      | cons next names =>
          have hlast : (name ++ ",").toList.filter (· ≠ ',') = name.toList := by
            rw [String.toList_append, List.filter_append, hfilter]
            exact List.append_nil _
          rw [separated, List.map_cons, hlast, ih hrest, String.ofList_toList]
          exact List.cons_ne_nil _ _

/-- The words that a signature begins with. -/
def Multiplicity.keywords : Multiplicity → String
  | .abstract => "abstract sig "
  | .one => "one sig "

/-- The words that name the parent of a signature. -/
def Signature.extension (s : Signature) : String :=
  match s.parent with
  | some parent => " extends " ++ parent
  | none => ""

theorem Signature.head_eq (s : Signature) :
    s.head = s.multiplicity.keywords ++ ", ".intercalate s.names ++ s.extension := by
  rw [head, extension]
  cases s.multiplicity <;> rfl

/-- The keywords of a signature are passed over. -/
theorem signatureRest?_keywords_append (m : Multiplicity) (rest : String) :
    signatureRest? (m.keywords ++ rest).toList = some rest.toList := by
  cases m <;> simp [Multiplicity.keywords, signatureRest?, signatureKeywords, List.isPrefixOf?]

/-- A line that begins like a signature declares the names up to a stop word. -/
theorem declaredNames_keywords_append (m : Multiplicity) {names : List String} (hne : names ≠ [])
    (h : ∀ name ∈ names, IsName name) {ending stop : String} {after : List String}
    (hending : Text.words ending = stop :: after) (hstop : stop ∈ stopWords) :
    declaredNames (m.keywords ++ (", ".intercalate names ++ " " ++ ending)) = names := by
  have htake : (separated names ++ stop :: after).takeWhile (· ∉ stopWords) = separated names := by
    rw [List.takeWhile_append_of_pos fun word hword =>
      decide_eq_true (notMem_stopWords_of_mem_separated h hword), List.takeWhile_cons_of_neg
      (by simpa using hstop), List.append_nil]
  rw [declaredNames, signatureRest?_keywords_append]
  simp only [String.ofList_toList, words_intercalate_comma hne h, hending, htake,
    map_filter_separated h]

/-- The first line of a signature declares its names, be its fields below or not. -/
theorem declaredNames_head {s : Signature} (hne : s.names ≠ [])
    (h : ∀ name ∈ s.names, IsName name) :
    declaredNames (s.head ++ " \x7b") = s.names ∧
      declaredNames (s.head ++ " \x7b\x7d") = s.names := by
  suffices hbrace : ∀ brace ∈ ["\x7b", "\x7b\x7d"],
      declaredNames (s.head ++ (" " ++ brace)) = s.names by
    have hopen : " " ++ "\x7b" = " \x7b" := by decide
    have hempty : " " ++ "\x7b\x7d" = " \x7b\x7d" := by decide
    rw [← hopen, ← hempty]
    exact ⟨hbrace _ List.mem_cons_self, hbrace _ (List.mem_cons_of_mem _ List.mem_cons_self)⟩
  intro brace hbrace
  have hspace : ' ' ∉ brace.toList := by
    have hnone : ∀ b ∈ ["\x7b", "\x7b\x7d"], ' ' ∉ b.toList := by decide
    exact hnone brace hbrace
  cases hparent : s.parent with
  | none =>
      have hline : s.head ++ (" " ++ brace) =
          s.multiplicity.keywords ++ (", ".intercalate s.names ++ " " ++ brace) := by
        rw [s.head_eq, Signature.extension, hparent]
        apply String.toList_injective
        simp
      rw [hline]
      exact declaredNames_keywords_append _ hne h (Text.words_of_notMem hspace)
        (List.mem_cons_of_mem _ hbrace)
  | some parent =>
      have hline : s.head ++ (" " ++ brace) = s.multiplicity.keywords ++
          (", ".intercalate s.names ++ " " ++ ("extends" ++ " " ++ (parent ++ " " ++ brace))) := by
        rw [s.head_eq, Signature.extension, hparent]
        apply String.toList_injective
        simp
      rw [hline]
      exact declaredNames_keywords_append _ hne h (Text.words_append (by decide) _)
        List.mem_cons_self

/-! ## Forms -/

/-- A text that declares a field is not an equation. -/
def IsTyping (s : String) : Prop := IsLine s ∧ '=' ∉ s.toList

/-- Every line of the form shows what it belongs to. -/
inductive Form.IsProper : Form → Prop where
  | blank : IsProper .blank
  | heading {name : String} (h : IsLine name) : IsProper (.heading name)
  | comment {text : String} (h : IsLine text) : IsProper (.comment text)
  | signature {s : Signature} (hne : s.names ≠ []) (hnames : ∀ name ∈ s.names, IsName name)
      (hparent : ∀ parent ∈ s.parent, IsLine parent)
      (hfields : ∀ field ∈ s.fields, IsTyping (field.1 ++ ": " ++ field.2)) :
      IsProper (.signature s)
  | fact {f : Fact} (hname : ∀ name ∈ f.name, IsLine name)
      (hequations : ∀ e ∈ f.equations, IsLine (e.1 ++ " = " ++ e.2)) : IsProper (.fact f)
  | definition {head : String} {body : List String} (hhead : IsLine head)
      (hkeyword : StartsPlain head)
      (hbody : ∀ line ∈ body, IsLine line ∧ line.toList.head?.all (fun c => !c.isAlpha) = true) :
      IsProper (.definition head body)
  | run (scope : Nat) : IsProper (.run scope)

def Form.equations : Form → List (String × String)
  | .fact f => f.equations
  | _ => []

theorem indent_inj {text text' : String} : indent text = indent text' ↔ text = text' := by
  refine ⟨fun heq => ?_, congrArg indent⟩
  have hchars := congrArg String.toList heq
  rw [indent, indent, String.toList_append, String.toList_append] at hchars
  exact String.toList_injective (List.append_cancel_left hchars)

theorem mem_braced {head line : String} {body : List String} :
    line ∈ braced head body ↔ line = head ++ " \x7b" ∨ line ∈ body ∨ line = "\x7d" := by
  simp [braced]

theorem Signature.isLine_head {s : Signature} (hnames : ∀ name ∈ s.names, IsName name)
    (hparent : ∀ parent ∈ s.parent, IsLine parent) : IsLine s.head := by
  have hlist : IsLine (", ".intercalate s.names) :=
    (isLine_intercalate_iff (by decide)).2 fun name hname => (hnames name hname).isLine
  have hextension : IsLine s.extension := by
    unfold extension
    cases hp : s.parent with
    | none => decide
    | some parent => exact isLine_append.2 ⟨by decide, hparent parent hp⟩
  rw [s.head_eq, isLine_append, isLine_append]
  refine ⟨⟨?_, hlist⟩, hextension⟩
  cases s.multiplicity <;> decide

theorem Signature.indent_ne_head (s : Signature) (text ending : String) :
    indent text ≠ s.head ++ ending := by
  have hkeywords : s.multiplicity.keywords.toList.head? = some 'a' ∨
      s.multiplicity.keywords.toList.head? = some 'o' := by
    cases s.multiplicity <;> decide
  intro heq
  have hhead := congrArg (fun line : String => line.toList.head?) heq
  rw [head?_indent, s.head_eq] at hhead
  rcases hkeywords with hfirst | hfirst
  · rw [head?_append (head?_append (head?_append hfirst _) _) _] at hhead
    cases hhead
  · rw [head?_append (head?_append (head?_append hfirst _) _) _] at hhead
    cases hhead

/-- The lines of fields are typings, with or without a comma. -/
theorem exists_typing_of_mem_separated {fields : List (String × String)}
    (h : ∀ field ∈ fields, IsTyping (field.1 ++ ": " ++ field.2)) {line : String}
    (hline : line ∈ separated (fields.map fun field => indent (field.1 ++ ": " ++ field.2))) :
    ∃ text, line = indent text ∧ IsTyping text := by
  obtain ⟨last, hlast, hcases⟩ := mem_separated hline
  obtain ⟨field, hfield, rfl⟩ := List.mem_map.1 hlast
  have htyping := h field hfield
  rcases hcases with rfl | rfl
  · exact ⟨_, rfl, htyping⟩
  · refine ⟨field.1 ++ ": " ++ field.2 ++ ",", String.append_assoc, ?_, ?_⟩
    · exact isLine_append.2 ⟨htyping.1, by decide⟩
    · rw [String.toList_append, List.mem_append, not_or]
      exact ⟨htyping.2, by decide⟩

def Fact.head (f : Fact) : String :=
  match f.name with
  | some name => "fact " ++ name
  | none => "fact"

theorem Form.lines_fact (f : Fact) : (Form.fact f).lines =
    braced f.head (f.equations.map fun e => indent (e.1 ++ " = " ++ e.2)) := rfl

theorem Fact.startsPlain_head (f : Fact) : StartsPlain f.head := by
  unfold head
  cases f.name with
  | none => exact .ofList (by decide)
  | some name => exact .append (.ofList (by decide)) name

theorem Fact.isLine_head {f : Fact} (h : ∀ name ∈ f.name, IsLine name) : IsLine f.head := by
  unfold head
  cases hf : f.name with
  | none => decide
  | some name => exact isLine_append.2 ⟨by decide, h name hf⟩

namespace Form.IsProper

variable {form : Form}

/-- Well-formed forms have no line feeds within their lines. -/
theorem isLine (h : form.IsProper) : ∀ line ∈ form.lines, IsLine line := by
  intro line hline
  cases h with
  | blank =>
      rw [List.mem_singleton.1 hline]
      decide
  | heading h =>
      rw [List.mem_singleton.1 hline, isLine_append]
      exact ⟨by decide, h⟩
  | comment h =>
      rw [List.mem_singleton.1 hline, isLine_append]
      exact ⟨by decide, h⟩
  | @signature s _ hnames hparent hfields =>
      have hhead := s.isLine_head hnames hparent
      rw [Form.lines] at hline
      split at hline
      · rw [List.mem_singleton.1 hline, isLine_append]
        exact ⟨hhead, by decide⟩
      · rcases mem_braced.1 hline with rfl | hbody | rfl
        · exact isLine_append.2 ⟨hhead, by decide⟩
        · obtain ⟨text, rfl, htyping⟩ := exists_typing_of_mem_separated hfields hbody
          exact isLine_append.2 ⟨by decide, htyping.1⟩
        · decide
  | @fact f hname hequations =>
      rw [Form.lines_fact] at hline
      rcases mem_braced.1 hline with rfl | hline | rfl
      · exact isLine_append.2 ⟨f.isLine_head hname, by decide⟩
      · obtain ⟨e, he, rfl⟩ := List.mem_map.1 hline
        exact isLine_append.2 ⟨by decide, hequations e he⟩
      · decide
  | @definition head body hhead _ hbody =>
      rcases mem_braced.1 hline with rfl | hline | rfl
      · exact isLine_append.2 ⟨hhead, by decide⟩
      · obtain ⟨text, htext, rfl⟩ := List.mem_map.1 hline
        exact isLine_append.2 ⟨by decide, (hbody text htext).1⟩
      · decide
  | run scope =>
      rw [List.mem_singleton.1 hline]
      exact Graph.isLine_runLine scope

/-- A form declares what its lines declare. -/
theorem declaredNames_lines (h : form.IsProper) :
    form.lines.flatMap declaredNames = form.declared := by
  have hone {line : String} (hline : StartsPlain line) : [line].flatMap declaredNames = [] := by
    rw [List.flatMap_singleton, hline.declaredNames_eq_nil]
  cases h with
  | blank => rfl
  | heading => exact hone (StartsPlain.append (.ofList (by decide)) _)
  | comment => exact hone (StartsPlain.append (.ofList (by decide)) _)
  | @signature s hne hnames _ hfields =>
      rw [Form.lines]
      split
      · rw [List.flatMap_singleton]
        exact (declaredNames_head hne hnames).2
      · rw [flatMap_declaredNames_braced fun line hline => ?_]
        · exact (declaredNames_head hne hnames).1
        · obtain ⟨text, rfl, -⟩ := exists_typing_of_mem_separated hfields hline
          exact declaredNames_indent text
  | @fact f _ _ =>
      rw [Form.lines_fact, flatMap_declaredNames_braced fun line hline => ?_]
      · exact (f.startsPlain_head.append _).declaredNames_eq_nil
      · obtain ⟨e, -, rfl⟩ := List.mem_map.1 hline
        exact declaredNames_indent _
  | definition _ hkeyword =>
      rw [Form.lines, flatMap_declaredNames_braced fun line hline => ?_]
      · exact (hkeyword.append _).declaredNames_eq_nil
      · obtain ⟨text, -, rfl⟩ := List.mem_map.1 hline
        exact declaredNames_indent text
  | run => exact hone (StartsPlain.append (.ofList (by decide)) _)

/-- An indented line that begins with a letter and has an equals sign is an equation of a
fact. -/
theorem exists_equation (h : form.IsProper) {text : String} (hline : indent text ∈ form.lines)
    (hletter : ∃ c ∈ text.toList.head?, c.isAlpha = true) (hequals : '=' ∈ text.toList) :
    ∃ e ∈ form.equations, text = e.1 ++ " = " ++ e.2 := by
  have hone {line : String} (hplain : StartsPlain line) : indent text ∉ [line] :=
    fun hmem => hplain.ne_indent text (List.mem_singleton.1 hmem)
  have hbraced {head : String} {body : List String} (hplain : StartsPlain head)
      (hmem : indent text ∈ braced head body) : indent text ∈ body := by
    rcases mem_braced.1 hmem with heq | hmem | heq
    · exact absurd heq ((hplain.append _).ne_indent text)
    · exact hmem
    · exact absurd heq ((StartsPlain.ofList (by decide)).ne_indent text)
  cases h with
  | blank => exact absurd (List.mem_singleton.1 hline) (indent_ne_empty text)
  | heading => exact absurd hline (hone (StartsPlain.append (.ofList (by decide)) _))
  | comment => exact absurd hline (hone (StartsPlain.append (.ofList (by decide)) _))
  | @signature s _ _ _ hfields =>
      rw [Form.lines] at hline
      split at hline
      · exact absurd (List.mem_singleton.1 hline) (s.indent_ne_head text _)
      · rcases mem_braced.1 hline with heq | hmem | heq
        · exact absurd heq (s.indent_ne_head text _)
        · obtain ⟨text', heq, htyping⟩ := exists_typing_of_mem_separated hfields hmem
          exact absurd (indent_inj.1 heq ▸ hequals) htyping.2
        · exact absurd heq ((StartsPlain.ofList (by decide)).ne_indent text)
  | @fact f _ _ =>
      obtain ⟨e, he, heq⟩ := List.mem_map.1 (hbraced f.startsPlain_head hline)
      exact ⟨e, he, (indent_inj.1 heq).symm⟩
  | @definition head body hhead hkeyword hbody =>
      obtain ⟨line, hbodyLine, heq⟩ := List.mem_map.1 (hbraced hkeyword hline)
      obtain ⟨c, hc, hletter⟩ := hletter
      have hother := (hbody line hbodyLine).2
      rw [indent_inj.1 heq, Option.mem_def.1 hc, Option.all_some, hletter] at hother
      cases hother
  | run => exact absurd hline (hone (StartsPlain.append (.ofList (by decide)) _))

end Form.IsProper

/-! ## Texts -/

section Texts

variable {forms : List Form} (h : ∀ form ∈ forms, form.IsProper)

include h

theorem lines_render : Text.lines (render forms) = forms.flatMap Form.lines ++ [""] := by
  refine Text.lines_unlines fun line hline => ?_
  obtain ⟨form, hform, hline⟩ := List.mem_flatMap.1 hline
  exact (h form hform).isLine line hline

/-- The text declares the signatures of its forms, in their order. -/
theorem declaredNames_render :
    (Text.lines (render forms)).flatMap declaredNames = forms.flatMap Form.declared := by
  have hempty : declaredNames "" = [] := declaredNames_of_head? nofun
  rw [lines_render h, List.flatMap_append, List.flatMap_singleton, hempty, List.append_nil,
    List.flatMap_assoc]
  exact List.flatMap_congr fun form hform => (h form hform).declaredNames_lines

/-- What is stated of an atom in the text is an equation of one of the facts. -/
theorem exists_equation_of_mem_lines {text : String}
    (hline : indent text ∈ Text.lines (render forms))
    (hletter : ∃ c ∈ text.toList.head?, c.isAlpha = true) (hequals : '=' ∈ text.toList) :
    ∃ e ∈ forms.flatMap Form.equations, text = e.1 ++ " = " ++ e.2 := by
  rw [lines_render h, List.mem_append, List.mem_flatMap] at hline
  rcases hline with ⟨form, hform, hline⟩ | hline
  · obtain ⟨e, he, heq⟩ := (h form hform).exists_equation hline hletter hequals
    exact ⟨e, List.mem_flatMap.2 ⟨form, hform, he⟩, heq⟩
  · exact absurd (List.mem_singleton.1 hline) (indent_ne_empty text)

end Texts

end ZoneGuard.Spec
