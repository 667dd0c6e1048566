import Conductor.Agent.Response
import Conductor.World
import Mathlib.Data.List.Basic

/-! The calls that have been made, each with those before it, and what a call costs by how it has ended. -/

namespace Conductor

/-- What a call costs that ended with an envelope that can be read. -/
def costOf : Except Failure (Json × Bool) → Option Float
  | .ok (envelope, _) => (Response.read envelope).toExcept.toOption.map (·.usage.cost)
  | .error _ => none

def CallEnd.cost? (e : CallEnd) : Option Float := costOf e.outcome

namespace World

variable {w t : World}

/-- The calls, each with those that were made before it. -/
def log (w : World) : List (Call × List Call) := w.calls.zipIdx.map fun entry => (entry.1, w.calls.take entry.2)

theorem log_eq (h : t.calls = w.calls) : t.log = w.log := by rw [log, log, h]

theorem log_called {call : Call} (h : t.calls = w.calls ++ [call]) : t.log = w.log ++ [(call, w.calls)] := by
  rw [log, log, h, List.zipIdx_append, List.map_append]
  congr 1
  · refine List.map_congr_left fun entry hm => Prod.ext rfl ?_
    have hlt : entry.2 < w.calls.length := by simpa using List.snd_lt_of_mem_zipIdx hm
    exact List.take_append_of_le_length (Nat.le_of_lt hlt)
  · simp

theorem map_fst_log (w : World) : w.log.map Prod.fst = w.calls := by
  rw [log, List.map_map]
  exact List.zipIdx_map_fst 0 w.calls

/-- A call has the number of those that were made before it. -/
theorem numbers_log (w : World) : (w.log.map fun entry => entry.2.length) = List.range w.calls.length := by
  have htaken (entry : Call × Nat) (hm : entry ∈ w.calls.zipIdx) : (w.calls.take entry.2).length = entry.2 := by
    have hlt : entry.2 < w.calls.length := by simpa using List.snd_lt_of_mem_zipIdx hm
    rw [List.length_take, Nat.min_eq_left (Nat.le_of_lt hlt)]
  rw [log, List.map_map, List.range_eq_range', ← List.zipIdx_map_snd 0 w.calls]
  exact List.map_congr_left htaken

theorem of_mem_log {call : Call} {earlier : List Call} (h : (call, earlier) ∈ w.log) :
    w.calls[earlier.length]? = some call ∧ w.calls.take earlier.length = earlier := by
  obtain ⟨⟨call', n⟩, hm, he⟩ := List.mem_map.1 h
  have hget : w.calls[n]? = some call' := by simpa using List.mem_zipIdx_iff_getElem?.1 hm
  have hlt : n < w.calls.length := (List.getElem?_eq_some_iff.1 hget).1
  obtain ⟨rfl, rfl⟩ := Prod.mk.inj he
  have hlength : (w.calls.take n).length = n := by rw [List.length_take, Nat.min_eq_left (Nat.le_of_lt hlt)]
  rw [hlength]
  exact ⟨hget, rfl⟩

end World

end Conductor
