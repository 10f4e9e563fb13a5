import Mathlib.Data.List.Nodup
import FileGateway.Network.Sending
import FileGateway.Proofs.Network.Gateways

/-! Of what goes out to the gateways, the history of the network records what comes through. At a
place of a list the attempt has the first turn and the request the second. -/
namespace FileGateway

/-- When it is the turn of an event among those for one host. -/
def NetworkEvent.turn : NetworkEvent → Nat
  | attempt _ => 0
  | request _ _ => 1

/-- The history has grown by nothing that was not sent. -/
def Network.Hears (network : Network) (sent : List NetworkEvent) (next : Network) : Prop :=
  ∃ heard, heard.Sublist sent ∧ next.history = network.history ++ heard

namespace Network

theorem hears_of_history_eq {network next : Network} (same : next.history = network.history)
    (sent : List NetworkEvent) : network.Hears sent next :=
  ⟨[], List.nil_sublist sent, same.trans (List.append_nil _).symm⟩

theorem Hears.trans {first second third : Network} {sent sent' : List NetworkEvent}
    (before : first.Hears sent second) (after : second.Hears sent' third) :
    first.Hears (sent ++ sent') third := by
  obtain ⟨heard, sublist, grown⟩ := before
  obtain ⟨heard', sublist', grown'⟩ := after
  refine ⟨heard ++ heard', sublist.append sublist', ?_⟩
  rw [grown', grown, List.append_assoc]

theorem hears_connect (network : Network) (address : String) :
    network.Hears [.attempt (gatewayName address)] (network.connect address).2 :=
  ⟨_, List.Sublist.refl _, network.history_connect address⟩

theorem hears_perform (network : Network) (id : ClientId) (request : Request) :
    network.Hears (network.sends? id request).toList (network.perform id request).2 := by
  cases prepared : (network.client id).prepare request with
  | error error =>
    rw [perform_of_prepare_error prepared]
    exact hears_of_history_eq rfl _
  | ok frame =>
    cases ended : (network.client id).stream.ended with
    | true =>
      refine hears_of_history_eq ?_ _
      simp only [perform, prepared, send, ended, if_true]
      rfl
    | false =>
      refine ⟨_, List.Sublist.refl _, ?_⟩
      rw [sends?, prepared]
      exact history_perform prepared ended

/-- A request has its client's gateway for its receiver. -/
theorem sends?_eq_some_iff {network : Network} {id : ClientId} {request : Request}
    {event : NetworkEvent} :
    network.sends? id request = some event ↔
      ∃ frame, (network.client id).prepare request = .ok frame ∧
        event = .request (gatewayName (network.client id).address) frame := by
  rw [sends?]
  split
  · rename_i frame prepared
    simp [prepared, eq_comm]
  · rename_i error refused
    simp [refused]

end Network

namespace Sending

/-- The place of what is sent, with its turn there. -/
def slot (sending : Sending) : Nat × Nat := (sending.place, sending.event.turn)

theorem slot_of_isAttemptAt {place : Nat} {sending : Sending}
    (here : sending.isAttemptAt place = true) : sending.slot = (place, 0) := by
  obtain ⟨there, event⟩ := sending
  cases event with
  | attempt gateway =>
    simpa [isAttemptAt, NetworkEvent.isAttempt, slot, NetworkEvent.turn] using here
  | request gateway frame => simp [isAttemptAt, NetworkEvent.isAttempt] at here

theorem slot_of_isRequestAt {place : Nat} {sending : Sending}
    (here : sending.isRequestAt place = true) : sending.slot = (place, 1) := by
  obtain ⟨there, event⟩ := sending
  cases event with
  | attempt gateway => simp [isRequestAt, NetworkEvent.isRequest] at here
  | request gateway frame =>
    simpa [isRequestAt, NetworkEvent.isRequest, slot, NetworkEvent.turn] using here

/-- Where all slots differ, each is taken once. -/
theorem countP_le_one {sent : List Sending} (distinct : (sent.map slot).Nodup)
    {selects : Sending → Bool} {one : Nat × Nat}
    (only : ∀ sending, selects sending = true → sending.slot = one) :
    sent.countP selects ≤ 1 := by
  calc sent.countP selects
      ≤ sent.countP ((· == one) ∘ slot) := by
        refine List.countP_mono_left ?_
        intro sending _ selected
        exact beq_iff_eq.mpr (only sending selected)
    _ = (sent.map slot).count one := List.countP_map.symm
    _ ≤ 1 := List.nodup_iff_count_le_one.mp distinct one

/-- The order of the places, and of the turns at each of them. -/
def Before (first second : Sending) : Prop :=
  first.place < second.place ∨
    first.place = second.place ∧ first.event.turn < second.event.turn

theorem nodup_slot_of_before {sent : List Sending} (ordered : sent.Pairwise Before) :
    (sent.map slot).Nodup := by
  rw [List.Nodup, List.pairwise_map]
  refine ordered.imp ?_
  intro first second before same
  obtain ⟨place, turn⟩ := Prod.ext_iff.mp same
  rcases before with earlier | ⟨_, earlier⟩
  · exact Nat.ne_of_lt earlier place
  · exact Nat.ne_of_lt earlier turn

theorem countP_isAttemptAt_le_one {sent : List Sending} (distinct : (sent.map slot).Nodup)
    (place : Nat) : sent.countP (isAttemptAt place) ≤ 1 :=
  countP_le_one distinct (fun _ => slot_of_isAttemptAt)

theorem countP_isRequestAt_le_one {sent : List Sending} (distinct : (sent.map slot).Nodup)
    (place : Nat) : sent.countP (isRequestAt place) ≤ 1 :=
  countP_le_one distinct (fun _ => slot_of_isRequestAt)

end Sending
end FileGateway
