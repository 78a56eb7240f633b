import WalletCore.Proofs.Json.WellFormed
import WalletCore.State.Versioned

/-! # States that are read

Every state of the extension that is read from text is well formed, in each of its controllers.
-/
namespace WalletCore.State

/-- Whether the state of every controller is well formed. -/
def Controllers.WellFormed (controllers : Controllers) : Prop :=
  ∀ entry ∈ controllers.entries, entry.2.WellFormed

instance (controllers : Controllers) : Decidable controllers.WellFormed :=
  inferInstanceAs (Decidable (∀ entry ∈ controllers.entries, entry.2.WellFormed))

namespace Versioned

/-- What holds of every value that is read within one bracket less holds of the controllers that are
read. -/
theorem members_yields {property : Json → Prop} {allowance : Json.Allowance}
    (yields : ∀ inner : Json.Allowance, inner.depth + 1 = allowance.depth →
      Json.Yields (Json.readValue inner.length inner.depth) property) :
    Json.Yields (Decoder.members.read allowance) fun controllers =>
      ∀ entry ∈ controllers.entries, property entry.2 := by
  refine Decoder.map_yields fun text entries rest read entry stored => ?_
  have each : Json.Yields ((Decoder.entries .any).read allowance) fun members =>
      ∀ member ∈ members, property member.2 := Decoder.entries_yields yields
  exact each _ _ _ read entry (Members.mem_of_mem_ofList stored)

/-- Whether the controllers of a draft have a property, if it has them. -/
def Draft.Each (property : Json → Prop) (draft : Draft) : Prop :=
  ∀ controllers, draft.controllers = some controllers →
    ∀ entry ∈ controllers.entries, property entry.2

/-- Both fields of a state keep a property of the controllers of the draft. -/
theorem record_keeps {property : Json → Prop} {allowance : Json.Allowance}
    (yields : ∀ inner : Json.Allowance, inner.depth + 1 = allowance.depth →
      Json.Yields (Json.readValue inner.length inner.depth) property) :
    record.Keeps (Draft.Each property) allowance := by
  intro field member
  rcases List.mem_cons.1 member with rfl | member
  · exact Decoder.map_yields fun _ _ _ _ draft holds => holds
  · cases List.mem_singleton.1 member
    refine Decoder.map_yields fun text controllers rest read draft holds => ?_
    intro stored same
    cases same
    exact members_yields yields _ _ _ read

/-- What holds of every value that is read within the brackets left for controllers holds of the
controllers of every state that is read. -/
theorem forall_of_ofText {property : Json → Prop}
    (yields : ∀ length, Json.Yields (Json.readValue length 125) property)
    {text : String} {state : Versioned} (read : ofText text = .ok state) :
    ∀ entry ∈ state.controllers.entries, property entry.2 := by
  have finish : ∀ (draft : Draft) (state : Versioned), draft.Each property →
      record.finish draft = .ok state → ∀ entry ∈ state.controllers.entries, property entry.2 := by
    intro draft state holds finished
    obtain ⟨version, -, same⟩ := bind_eq_ok_iff.1 finished
    cases same
    cases found : draft.controllers with
    | none => exact fun entry member => absurd member List.not_mem_nil
    | some controllers => exact holds controllers found
  have blank : record.blank.Each property := fun controllers absent => by contradiction
  -- The state and its controllers each stand in a bracket of their own.
  have keeps : ∀ inner : Json.Allowance, inner.depth + 1 = 127 →
      record.Keeps (Draft.Each property) inner := by
    intro inner outer
    refine record_keeps fun innermost deeper => ?_
    have left : innermost.depth = 125 := by omega
    rw [left]
    exact yields innermost.length
  exact (Record.read_yields keeps blank finish).readAll read

/-- Every text that holds a state holds a well-formed one. -/
theorem wellFormed_of_ofText {text : String} {state : Versioned} (read : ofText text = .ok state) :
    state.controllers.WellFormed :=
  forall_of_ofText (fun length => Json.readValue_yields length 125) read

end Versioned

end WalletCore.State
