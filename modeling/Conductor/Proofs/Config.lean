import Conductor.Config
import Mathlib.Data.List.TakeWhile

/-! What a model costs. Prices are looked up by what stands behind the first colon of a name, so an entry without a
colon in its name is reached with and without a provider, and one with a colon only behind a provider. -/

namespace Conductor

section

variable {q : Char → Bool} {x : Char} {before after : List Char}

theorem splitAtFirst_append (h : ∀ y ∈ before, q y = false) (hx : q x = true) :
    splitAtFirst q (before ++ x :: after) = (before, some after) := by
  have hall : ∀ y ∈ before, (!q y) = true := fun y hy => by rw [h y hy]; rfl
  rw [splitAtFirst, List.dropWhile_append_of_pos hall, List.takeWhile_append_of_pos hall]
  simp [hx]

theorem splitAtFirst_of_forall (h : ∀ y ∈ before, q y = false) : splitAtFirst q before = (before, none) := by
  have hnothing : before.dropWhile (!q ·) = [] := List.dropWhile_eq_nil_iff.2 fun y hy => by rw [h y hy]; rfl
  rw [splitAtFirst, hnothing]

end

theorem forall_of_colon_notMem {p : String} (hp : ':' ∉ p.toList) : ∀ y ∈ p.toList, decide (y = ':') = false :=
  fun _ hy => decide_eq_false fun h => hp (h ▸ hy)

theorem bareModel_append {p : String} (hp : ':' ∉ p.toList) (m : String) : bareModel (p ++ ":" ++ m) = m := by
  have hsplit : splitAtFirst (· = ':') (p ++ ":" ++ m).toList = (p.toList, some m.toList) := by
    rw [String.toList_append, String.toList_append, List.append_assoc]
    exact splitAtFirst_append (x := ':') (forall_of_colon_notMem hp) rfl
  rw [bareModel, hsplit]
  exact String.ofList_toList

theorem bareModel_eq {m : String} (hm : ':' ∉ m.toList) : bareModel m = m := by
  rw [bareModel, splitAtFirst_of_forall (forall_of_colon_notMem hm)]
  exact String.ofList_toList

/-! The table of prices -/

namespace Assoc

variable {α β : Type}

theorem get?_mapped (t : Assoc α) (f : α → β) (name : String) :
    get? (t.map fun entry => (entry.1, f entry.2)) name = (t.get? name).map f := by
  induction t with
  | nil => rfl
  | cons entry rest ih =>
    by_cases h : entry.1 = name
    · simp [get?, h]
    · simpa [get?, h] using ih

theorem get?_overlay_or (t top : Assoc α) (name : String) :
    (t.overlay top).get? name = ((ofEntries top).get? name).or (t.get? name) := by
  rw [ofEntries, get?_overlay, get?_overlay [], get?_nil, Option.or_none]

end Assoc

theorem Reading.get?_membersOf {α : Type} {read : Json → Reading α} {members : Members} {out : Assoc α}
    (h : membersOf read members = done out) (name : String) :
    (Assoc.get? members name).map read = (out.get? name).map done := by
  induction members generalizing out with
  | nil =>
    cases h
    rfl
  | cons entry rest ih =>
    obtain ⟨key, doc⟩ := entry
    simp only [membersOf, seq_eq_done, map_eq_done] at h
    obtain ⟨_, values, ⟨value, hvalue, rfl⟩, hvalues, rfl⟩ := h
    by_cases hkey : key = name
    · simp [Assoc.get?, hkey, below_eq_done.1 hvalue]
    · simpa [Assoc.get?, hkey] using ih hvalues

theorem Pricing.read_toJson (p : Pricing) : Pricing.read p.toJson = .done p := rfl

namespace Config

/-- The entries that a document has for prices. -/
def entries : Json → Members
  | .obj members => members
  | _ => []

/-- An entry of the document counts, and else the one that is built in. -/
structure Extends (prices : Assoc Pricing) (entries : Members) (name : String) : Prop where
  configured : ∀ doc, (Assoc.ofEntries entries).get? name = some doc →
    ∃ entry, Pricing.read doc = .done entry ∧ prices.get? name = some entry
  builtin : (Assoc.ofEntries entries).get? name = none → prices.get? name = Pricing.builtin.get? name

theorem extends_of_membersOf {prices : Assoc Pricing} {entries : Members}
    (h : Reading.membersOf Pricing.read
      (Assoc.overlay (Pricing.builtin.map fun entry => (entry.1, entry.2.toJson)) entries) = .done prices)
    (name : String) : Extends prices entries name := by
  have hread := Reading.get?_membersOf h name
  rw [Assoc.get?_overlay_or, Assoc.get?_mapped] at hread
  constructor
  · intro doc hdoc
    rw [hdoc, Option.some_or, Option.map_some] at hread
    obtain ⟨entry, hget, hentry⟩ := Option.map_eq_some_iff.1 hread.symm
    exact ⟨entry, hentry.symm, hget⟩
  · intro hnone
    have hbuiltin : Pricing.read ∘ Pricing.toJson = .done := funext Pricing.read_toJson
    rw [hnone, Option.none_or, Option.map_map, hbuiltin] at hread
    exact Option.map_injective (fun _ _ => Reading.done.inj) hread.symm

theorem extends_of_readPricing {doc : Json} {prices : Assoc Pricing} (h : readPricing doc = .done prices)
    (name : String) : Extends prices (entries doc) name := by
  unfold readPricing at h
  by_cases htruthy : doc.truthy = true
  · rw [if_neg (by simp [htruthy])] at h
    cases doc with
    | obj members => exact extends_of_membersOf h name
    | _ => cases h
  · rw [if_pos (by simp [htruthy])] at h
    cases h
    have hnone : entries doc = [] := by
      cases doc with
      | obj members => simpa [Json.truthy, entries] using htruthy
      | _ => rfl
    rw [hnone]
    exact ⟨nofun, fun _ => rfl⟩

/-- The entries for prices among the members of a document with settings. -/
def configured (members : Members) : Members := entries ((Assoc.get? members "pricing").getD .null)

theorem extends_of_ofMembers {c : Config} {members : Members} (h : ofMembers members = .done c) (name : String) :
    Extends c.pricing (configured members) name := by
  simp only [ofMembers, Reading.seq_eq_done, Reading.map_eq_done] at h
  obtain ⟨_, prices, ⟨_, _, ⟨_, _, ⟨_, _, rfl⟩, _, rfl⟩, _, rfl⟩, hprices, rfl⟩ := h
  rw [Reading.optional, Reading.field, Reading.find] at hprices
  unfold configured
  cases hget : Assoc.get? members "pricing" with
  | none =>
    simp only [List.findSome?_cons, hget, Option.map_none, List.findSome?_nil] at hprices
    cases hprices
    exact ⟨nofun, fun _ => rfl⟩
  | some doc =>
    simp only [List.findSome?_cons, hget, Option.map_some, Reading.below_eq_done] at hprices
    exact extends_of_readPricing hprices name

/-! Looking prices up -/

/-- The entry of the configured default model, or else the built-in one of the built-in default model. -/
def usual (c : Config) : Option Pricing :=
  (c.pricing.get? (bareModel c.agents.model)).or (Pricing.builtin.get? (bareModel ({} : AgentSettings).model))

variable {c : Config} {m : String}

theorem pricingFor_some (hm : m ≠ "") :
    some (c.pricingFor (some m)) = (c.pricing.get? (bareModel m)).or c.usual := by
  have hsonnet : Pricing.builtin.get? (bareModel ({} : AgentSettings).model) = some Pricing.sonnet := rfl
  unfold usual
  rw [hsonnet, pricingFor]
  simp only [if_neg hm]
  cases c.pricing.get? (bareModel m) with
  | some entry => rfl
  | none => cases c.pricing.get? (bareModel c.agents.model) <;> rfl

/-- Behind a provider every name is looked up as it is. -/
theorem pricingFor_append (c : Config) {p : String} (hp : ':' ∉ p.toList) (m : String) :
    some (c.pricingFor (some (p ++ ":" ++ m))) = (c.pricing.get? m).or c.usual := by
  have hnonempty : p ++ ":" ++ m ≠ "" := by
    intro h
    simpa using congrArg String.toList h
  rw [pricingFor_some hnonempty, bareModel_append hp]

/-- An entry is reached behind every provider, and by its name alone if that has no colon. A name with a colon has the
price of what stands behind its first colon, even when the table has an entry for the whole of it. -/
theorem plain_entries_reached (c : Config) :
    (∀ m entry, m ≠ "" → c.pricing.get? m = some entry →
      (∀ p, ':' ∉ p.toList → c.pricingFor (some (p ++ ":" ++ m)) = entry) ∧
      (':' ∉ m.toList → c.pricingFor (some m) = entry)) ∧
    (∀ p m, ':' ∉ p.toList → some (c.pricingFor (some (p ++ ":" ++ m))) = (c.pricing.get? m).or c.usual) ∧
    (∀ m, m ≠ "" → c.pricing.get? m = none → c.pricing.get? (bareModel m) = none →
      some (c.pricingFor (some m)) = c.usual) ∧
    ∀ members, ofMembers members = .done c → ∀ name, Extends c.pricing (configured members) name := by
  refine ⟨fun m entry hm hentry => ⟨fun p hp => ?_, fun hplain => ?_⟩, fun p m hp => c.pricingFor_append hp m, ?_,
    fun members => extends_of_ofMembers⟩
  · have hprice := c.pricingFor_append hp m
    rw [hentry, Option.some_or] at hprice
    exact Option.some.inj hprice
  · have hprice := pricingFor_some (c := c) hm
    rw [bareModel_eq hplain, hentry, Option.some_or] at hprice
    exact Option.some.inj hprice
  · intro m hm _ hbare
    rw [pricingFor_some hm, hbare, Option.none_or]

/-- Settings with a default model of their own, and two more prices: a new one under a name with a colon, and another
one for a built-in name. -/
def localSettings : Members := [
  ("agents", .obj [("model", .str "anthropic:claude-3-5-haiku-20241022")]),
  ("pricing", .obj [
    ("llama3:8b", .obj [("input", .real 0.1), ("output", .real 0.2)]),
    ("claude-3-haiku-20240307", .obj [("input", .real 0.5), ("output", .real 1.5)])])]

def localConfig : Config where
  agents := { model := "anthropic:claude-3-5-haiku-20241022" }
  pricing := [
    ("claude-sonnet-4-20250514", Pricing.sonnet), ("claude-3-5-sonnet-20241022", ⟨3.0, 15.0⟩),
    ("claude-3-5-haiku-20241022", ⟨0.80, 4.0⟩), ("claude-3-haiku-20240307", ⟨0.5, 1.5⟩), ("llama3:8b", ⟨0.1, 0.2⟩)]

theorem plain_entries_reached_but_for_a_colon :
    ofMembers localSettings = .done localConfig ∧
      Extends localConfig.pricing (configured localSettings) "claude-3-haiku-20240307" ∧
      localConfig.pricingFor (some "claude-3-haiku-20240307") = ⟨0.5, 1.5⟩ ∧
      localConfig.pricing.get? "llama3:8b" = some ⟨0.1, 0.2⟩ ∧
      localConfig.pricingFor (some ("ollama" ++ ":" ++ "llama3:8b")) = ⟨0.1, 0.2⟩ ∧
      some (localConfig.pricingFor (some ("llama3" ++ ":" ++ "8b"))) = some ⟨0.80, 4.0⟩ ∧
      some (localConfig.pricingFor (some "mystery")) = some ⟨0.80, 4.0⟩ := by
  obtain ⟨hreached, hrest, hunknown, hextends⟩ := plain_entries_reached localConfig
  have hread : ofMembers localSettings = .done localConfig := rfl
  have hlocal : localConfig.pricing.get? "llama3:8b" = some ⟨0.1, 0.2⟩ := rfl
  refine ⟨hread, hextends localSettings hread _, ?_, hlocal, ?_, ?_, ?_⟩
  · exact (hreached "claude-3-haiku-20240307" _ (by decide) rfl).2 (by decide)
  · exact (hreached "llama3:8b" _ (by decide) hlocal).1 "ollama" (by decide)
  · exact hrest "llama3" "8b" (by decide)
  · exact hunknown "mystery" (by decide) rfl rfl

end Config

end Conductor
