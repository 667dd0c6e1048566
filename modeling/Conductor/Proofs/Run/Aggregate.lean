import Conductor.Proofs.Context
import Conductor.Proofs.Run.Bodies
import Mathlib.Data.List.Induction

/-! What an aggregate step makes of its sources. It collects their outputs by the keys they were published under,
whatever it does with them then, so that a source is lost as soon as a later one has its key. -/

namespace Conductor

namespace Json

/-- What an output adds to a concatenation. -/
def parts : Json → List Json
  | .arr items => items
  | .null => []
  | doc => [doc]

/-- Whether an output can be part of a sum: it is absent or a number. A truth value is no number. -/
def Addable (doc : Json) : Prop := doc = .null ∨ ∃ n, doc = .num n

/-- What an output adds to a sum. -/
def addend? : Json → Option Number
  | .num n => some n
  | _ => none

end Json

namespace Assoc

variable {α : Type}

theorem ofEntries_concat (entries : List (String × α)) (entry : String × α) :
    ofEntries (entries ++ [entry]) = (ofEntries entries).put entry.1 entry.2 := by
  rw [ofEntries, overlay, List.foldl_concat]
  rfl

/-- The names of a table that is read from entries, in the order of their first appearance. -/
theorem names_ofEntries (entries : List (String × α)) :
    (ofEntries entries).names = (entries.map Prod.fst).eraseDups := by
  induction entries using List.reverseRecOn with
  | nil => rfl
  | append_singleton entries entry ih =>
    rw [ofEntries_concat, List.map_append, List.eraseDups_append, ← ih]
    by_cases hname : entry.1 ∈ (ofEntries entries).names
    · have hold : entry.1 ∈ entries.map Prod.fst := by rwa [ih, List.mem_eraseDups] at hname
      rw [names_put_of_mem hname]
      simp [List.removeAll, hold]
    · have hnew : entry.1 ∉ entries.map Prod.fst := by rwa [ih, List.mem_eraseDups] at hname
      rw [put_of_get?_eq_none (get?_eq_none_of_not_mem hname)]
      have hone : [entry.1].eraseDups = [entry.1] := List.eraseDups_cons
      simp [List.removeAll, hnew, names, hone]

theorem nodup_names_ofEntries (entries : List (String × α)) : (ofEntries entries).names.Nodup :=
  nodup_names_overlay (t := []) List.nodup_nil entries

/-- An entry of a table is the last of the entries with its name that it is read from. -/
theorem mem_ofEntries {entries : List (String × α)} {entry : String × α} (h : entry ∈ ofEntries entries) :
    ∃ before after, entries = before ++ entry :: after ∧ ∀ later ∈ after, later.1 ≠ entry.1 := by
  have hget : (ofEntries entries).get? entry.1 = some entry.2 :=
    get?_of_mem_of_nodup (nodup_names_ofEntries entries) h
  rw [ofEntries, get?_overlay, get?_nil, Option.or_none] at hget
  obtain ⟨found, hfound, hvalue⟩ := Option.map_eq_some_iff.1 hget
  obtain ⟨hname, after, before, hsplit, hlast⟩ := List.find?_eq_some_iff_append.1 hfound
  obtain rfl : found = entry := Prod.ext (of_decide_eq_true hname) hvalue
  refine ⟨before.reverse, after.reverse, ?_, fun later hl => ?_⟩
  · rw [← List.reverse_reverse entries, hsplit, List.reverse_append, List.reverse_cons, List.append_assoc]
    rfl
  · have hne := hlast later (List.mem_reverse.1 hl)
    simpa using hne

end Assoc

namespace Run

open Conductor.Flow

variable {c : Context} {sources : List String}

/-- The outputs of the sources that have one, each with the key of its source. -/
def offered (c : Context) (sources : List String) : List (String × Output) :=
  sources.filterMap fun source => (c.stepOutput? source).map (c.keyFor source, ·)

/-- The output is that of the last source with the key. -/
def LastUnder (c : Context) (sources : List String) (key : String) (output : Output) : Prop :=
  ∃ before source after, sources = before ++ source :: after ∧ c.stepOutput? source = some output ∧
    c.keyFor source = key ∧ ∀ later ∈ after, (c.stepOutput? later).isSome → c.keyFor later ≠ key

theorem collect_eq (c : Context) (sources : List String) : collect c sources = Assoc.ofEntries (offered c sources) := by
  unfold collect Assoc.ofEntries
  generalize ([] : Assoc Output) = acc
  induction sources generalizing acc with
  | nil => rfl
  | cons source rest ih =>
    rw [List.foldl_cons, ih]
    simp only [offered, List.filterMap_cons]
    cases c.stepOutput? source <;> rfl

theorem lastUnder_of_mem {key : String} {output : Output} (h : (key, output) ∈ collect c sources) :
    LastUnder c sources key output := by
  rw [collect_eq] at h
  obtain ⟨before, after, hsplit, hlast⟩ := Assoc.mem_ofEntries h
  obtain ⟨front, back, rfl, -, hback⟩ := List.filterMap_eq_append_iff.1 hsplit
  obtain ⟨skipped, source, rest, rfl, -, hsource, hrest⟩ := List.filterMap_eq_cons_iff.1 hback
  obtain ⟨own, hown, he⟩ := Option.map_eq_some_iff.1 hsource
  cases he
  refine ⟨front ++ skipped, source, rest, (List.append_assoc ..).symm, hown, rfl, fun later hl hsome => ?_⟩
  obtain ⟨output', houtput⟩ := Option.isSome_iff_exists.1 hsome
  have hmem : (c.keyFor later, output') ∈ after := by
    rw [← hrest]
    exact List.mem_filterMap.2 ⟨later, hl, by rw [houtput]; rfl⟩
  exact hlast _ hmem

theorem collect_of_distinct (h : ((offered c sources).map Prod.fst).Nodup) : collect c sources = offered c sources := by
  have hnames : (Assoc.names ([] : Assoc Output) ++ Assoc.names (offered c sources)).Nodup := h
  rw [collect_eq, Assoc.ofEntries, Assoc.overlay_of_nodup hnames, List.nil_append]

theorem values_itemsFrom (n : Nat) (tables : List Place) (docs : List Json) :
    (Output.itemsFrom n tables docs).map Output.value = docs := by
  induction docs generalizing n with
  | nil => rfl
  | cons doc rest ih => exact congrArg (doc :: ·) (ih (n + 1))

theorem values_concatenate (outputs : Assoc Output) :
    (concatenate outputs).map Output.value = outputs.flatMap fun entry => entry.2.value.parts := by
  rw [concatenate, List.map_flatMap]
  refine List.flatMap_congr fun entry _ => ?_
  cases hvalue : entry.2.value with
  | arr items =>
    simp only [Output.items, hvalue]
    exact values_itemsFrom 0 _ items
  | null => rfl
  | bool b => exact congrArg (· :: []) hvalue
  | num n => exact congrArg (· :: []) hvalue
  | str s => exact congrArg (· :: []) hvalue
  | obj members => exact congrArg (· :: []) hvalue

/-- The sum from the left of those outputs that are numbers. There is none where a whole number beyond the doubles
meets a double. -/
def total? (outputs : Assoc Output) : Option Number :=
  (outputs.filterMap fun entry => entry.2.value.addend?).foldlM Number.add? (.whole 0)

theorem sum_eq_ok {outputs : Assoc Output} {total : Number} :
    sum outputs = .ok total ↔ (∀ entry ∈ outputs, entry.2.value.Addable) ∧ total? outputs = some total := by
  unfold sum total?
  generalize Number.whole 0 = acc
  induction outputs generalizing acc with
  | nil => simp [pure, Except.pure]
  | cons entry rest ih =>
    rw [List.foldlM_cons, List.filterMap_cons, List.forall_mem_cons]
    cases hvalue : entry.2.value with
    | null => simpa [bind, Except.bind, Json.Addable, Json.addend?] using ih acc
    | num n =>
      cases hadd : Number.add? acc n with
      | none => simp [hadd, bind, Except.bind, Json.addend?]
      | some next => simpa [hadd, bind, Except.bind, Json.Addable, Json.addend?] using ih next
    | bool b => simp [bind, Except.bind, Json.Addable]
    | str s => simp [bind, Except.bind, Json.Addable]
    | arr items => simp [bind, Except.bind, Json.Addable]
    | obj members => simp [bind, Except.bind, Json.Addable]

/-- For each key an aggregate step keeps the output of the last source that has one, in the place of the first; so
it loses none where no two of them were published under one key, and only there. What it keeps it puts together in
this order. -/
theorem aggregate_keeps_last_of_each_key (c : Context) (sources : List String) :
    ∃ kept : Assoc Output,
      kept.names = ((offered c sources).map Prod.fst).eraseDups ∧
      (∀ entry ∈ kept, LastUnder c sources entry.1 entry.2) ∧
      (kept = offered c sources ↔ ((offered c sources).map Prod.fst).Nodup) ∧
      ∀ id key,
        (∃ output, Settles (aggregate id sources .concat key) c (.ok output) (c.record id output (some key)) ∧
          output.value = .arr (kept.flatMap fun entry => entry.2.value.parts)) ∧
        (∀ total, (∀ entry ∈ kept, entry.2.value.Addable) → total? kept = some total →
          Settles (aggregate id sources .sum key) c (.ok (Json.num total))
            (c.record id (Json.num total) (some key))) ∧
        (¬ (∀ entry ∈ kept, entry.2.value.Addable) ∨ total? kept = none →
          ∃ f, Settles (aggregate id sources .sum key) c (.error f) c) := by
  have hnames : (collect c sources).names = ((offered c sources).map Prod.fst).eraseDups := by
    rw [collect_eq, Assoc.names_ofEntries]
  refine ⟨collect c sources, hnames, fun _ => lastUnder_of_mem, ⟨fun he => ?_, collect_of_distinct⟩,
    fun id key => ⟨?_, fun total hall htotal => ?_, fun hnone => ?_⟩⟩
  · have hnodup := Assoc.nodup_names_ofEntries (offered c sources)
    rw [← collect_eq, he] at hnodup
    exact hnodup
  · exact ⟨_, settles_aggregate id sources .concat key, congrArg Json.arr (values_concatenate _)⟩
  · have h := settles_aggregate (c := c) id sources .sum key
    rwa [combine, sum_eq_ok.2 ⟨hall, htotal⟩] at h
  · have h := settles_aggregate (c := c) id sources .sum key
    cases hsum : sum (collect c sources) with
    | error f =>
      rw [combine, hsum] at h
      exact ⟨f, h⟩
    | ok total =>
      obtain ⟨hall, htotal⟩ := sum_eq_ok.1 hsum
      rcases hnone with hnot | hnone
      · exact absurd hall hnot
      · rw [hnone] at htotal
        cases htotal

/-- A context in which two steps have published under one key. -/
def sharedKey : Context :=
  ((⟨.obj [], {}, []⟩ : Context).record "a" (Json.arr [.int 1]) (some "k")).record "b" (Json.arr [.int 2]) (some "k")

theorem aggregate_loses_shared_key : ∃ output,
    Settles (aggregate "all" ["a", "b"] .concat "all") sharedKey (.ok output)
      (sharedKey.record "all" output (some "all")) ∧ output.value = .arr [.int 2] := by
  obtain ⟨kept, hnames, hlast, -, hruns⟩ := aggregate_keeps_last_of_each_key sharedKey ["a", "b"]
  obtain ⟨⟨output, hsettles, hvalue⟩, -⟩ := hruns "all" "all"
  have hk : kept.names = ["k"] := hnames.trans (by decide +kernel)
  obtain ⟨⟨name, last⟩, rfl⟩ := List.length_eq_one_iff.1 ((List.length_map Prod.fst).symm.trans (congrArg _ hk))
  obtain rfl : name = "k" := List.head_eq_of_cons_eq hk
  obtain ⟨before, source, after, hsources, houtput, -, hlater⟩ := hlast _ List.mem_cons_self
  rcases before with _ | ⟨first, before⟩
  · -- the later source has the key too
    cases hsources
    exact absurd rfl (hlater "b" List.mem_cons_self rfl)
  · rcases before with _ | ⟨second, before⟩
    · cases hsources
      cases houtput
      exact ⟨output, hsettles, hvalue⟩
    · simp at hsources

end Run

end Conductor
