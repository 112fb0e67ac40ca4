import ZoneGuard.Rule.Basic

/-!
# Tables by rule

Values for some of the rules, such as the findings of each.
-/

namespace ZoneGuard

/-- Values for some of the rules, in the order in which they are reported. -/
structure RuleTable (α : Type) where
  entries : List (Rule × α)
deriving DecidableEq, Repr

namespace RuleTable

variable {α β : Type}

instance : EmptyCollection (RuleTable α) := ⟨⟨[]⟩⟩

def ofFn (rules : List Rule) (f : Rule → α) : RuleTable α := ⟨rules.map fun r => (r, f r)⟩

def rules (t : RuleTable α) : List Rule := t.entries.map (·.1)

def values (t : RuleTable α) : List α := t.entries.map (·.2)

def get? (t : RuleTable α) (r : Rule) : Option α := t.entries.lookup r

@[simp]
theorem rules_ofFn (rules : List Rule) (f : Rule → α) : (ofFn rules f).rules = rules := by
  simp [RuleTable.rules, ofFn, Function.comp_def]

@[simp]
theorem values_ofFn (rules : List Rule) (f : Rule → α) :
    (ofFn rules f).values = rules.map f := by
  simp [RuleTable.values, ofFn, Function.comp_def]

theorem get?_ofFn {rules : List Rule} {r : Rule} (f : Rule → α) (h : r ∈ rules) :
    (ofFn rules f).get? r = some (f r) := by
  induction rules with
  | nil => simp at h
  | cons s rest ih =>
    simp only [get?, ofFn, List.map_cons, List.lookup_cons] at ih ⊢
    by_cases hr : r = s
    · simp [hr]
    · simp only [beq_eq_false_iff_ne.2 hr]
      exact ih ((List.mem_cons.1 h).resolve_left hr)

theorem get?_ofFn_of_notMem {rules : List Rule} {r : Rule} (f : Rule → α) (h : r ∉ rules) :
    (ofFn rules f).get? r = none := by
  rw [get?, ofFn, List.lookup_eq_none_iff]
  intro entry hentry
  obtain ⟨s, hs, rfl⟩ := List.mem_map.1 hentry
  exact bne_iff_ne.2 fun heq => h (heq ▸ hs)

end RuleTable

end ZoneGuard
