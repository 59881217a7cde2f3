import ModelGateway.Event
import ModelGateway.Proofs.Json.Line
import ModelGateway.Proofs.Json.Plain
import ModelGateway.Proofs.Settings

/-!
# An event is one line

The line of an event has no control character, whatever its name and its fields hold, so what events
add to the output can be cut at the line ends into just the lines of the events. A line whose fields
are plain is read back as the event's record.
-/
namespace ModelGateway

/-- What is put over an object is found first. -/
theorem Object.value?_putAll {o other : Object} (h : (other.map Prod.fst).Nodup) (key : String) :
    value? (putAll o other) key = (value? other key).or (value? o key) := by
  induction other generalizing o with
  | nil => rfl
  | cons m rest ih =>
    obtain ⟨k, v⟩ := m
    obtain ⟨hfresh, hrest⟩ := List.nodup_cons.mp h
    change value? (putAll (put o k v) rest) key = _
    rw [ih hrest, value?_put, value?_cons]
    by_cases hkey : key = k
    · rw [if_pos hkey, if_pos hkey, hkey, value?_eq_none_iff.mpr hfresh]
      rfl
    · rw [if_neg hkey, if_neg hkey]

/-- What stands in front of each line end of a text, and behind the last. -/
def Text.cutAtLineEnds (s : String) : List String := (s.toList.splitOn '\n').map String.ofList

/-- Lines that are ended one by one are found when the text is cut, with nothing behind the last. -/
theorem Text.cutAtLineEnds_join {lines : List String} (h : ∀ l ∈ lines, '\n' ∉ l.toList) :
    cutAtLineEnds (String.join (lines.map (· ++ "\n"))) = lines ++ [""] := by
  have htext : (String.join (lines.map (· ++ "\n"))).toList =
      List.intercalate ['\n'] (lines.map String.toList ++ [[]]) := by
    rw [String.toList_join]
    induction lines with
    | nil => rfl
    | cons l rest ih =>
      obtain ⟨_, hrest⟩ := List.forall_mem_cons.mp h
      rw [List.map_cons, List.flatMap_cons, ih hrest, String.toList_append, List.map_cons,
        List.cons_append, List.intercalate_cons_of_ne_nil (List.append_ne_nil_of_right_ne_nil _
          (List.cons_ne_nil _ _))]
      rfl
  have hparts : ∀ part ∈ lines.map String.toList ++ [[]], '\n' ∉ part := by
    refine List.forall_mem_append.mpr ⟨?_, List.forall_mem_singleton.mpr List.not_mem_nil⟩
    intro part hpart
    obtain ⟨l, hl, rfl⟩ := List.mem_map.mp hpart
    exact h l hl
  rw [cutAtLineEnds, htext, List.splitOn_intercalate '\n' hparts
    (List.append_ne_nil_of_right_ne_nil _ (List.cons_ne_nil _ _)), List.map_append, List.map_map]
  simp

namespace Event

variable (time : String) (e : Event)

/-- The line of an event has no control character. -/
theorem noControl_line : Json.NoControl (line time e).toList :=
  Json.noControl_render Json.Style.inline_line _

variable {env : Environment} {time} {e}

theorem output_of_enabled (h : enabled env = true) (events : List Event) :
    output env time events = String.join ((events.map (line time)).map (· ++ "\n")) := by
  rw [output, lines, if_pos h]

/-- What events add to the output is cut into the lines of the events. -/
theorem cutAtLineEnds_output (h : enabled env = true) (events : List Event) :
    Text.cutAtLineEnds (output env time events) = events.map (line time) ++ [""] := by
  rw [output_of_enabled h]
  refine Text.cutAtLineEnds_join ?_
  intro l hl
  obtain ⟨e, _, rfl⟩ := List.mem_map.mp hl
  exact (noControl_line time e).newline_not_mem

variable (time) in
theorem isPlain_record (h : Json.isPlain (.object e.fields) = true) :
    Json.isPlain (.object (e.record time)) = true := by
  have hbefore : Json.isPlain (.object [("event", .text e.name), ("ts", .text time)]) = true := rfl
  obtain ⟨hkeys, hvalues⟩ := (Json.isPlain_object_iff _).mp hbefore
  refine (Json.isPlain_object_iff _).mpr ⟨Object.putAll_keys_nodup hkeys _, ?_⟩
  intro m hm
  rcases Object.mem_putAll hm with hm | hm
  · exact hvalues m hm
  · exact ((Json.isPlain_object_iff _).mp h).2 m hm

variable (time) in
/-- The line of an event with plain fields is read back as its record. -/
theorem parse_line (h : Json.isPlain (.object e.fields) = true) :
    Json.parse (line time e) = .ok (.object (e.record time)) :=
  Json.parse_render Json.Style.faithful_line (isPlain_record time h)

variable (time) in
/-- A record holds the fields, and the name and the time where no field replaces them. -/
theorem value?_record (h : Json.isPlain (.object e.fields) = true) (key : String) :
    Object.value? (e.record time) key = (Object.value? e.fields key).or
      (Object.value? [("event", .text e.name), ("ts", .text time)] key) :=
  Object.value?_putAll ((Json.isPlain_object_iff _).mp h).1 key

end Event
end ModelGateway
