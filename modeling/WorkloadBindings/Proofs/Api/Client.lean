import WorkloadBindings.Api.Client
import WorkloadBindings.Proofs.Dialogue
import WorkloadBindings.Proofs.Json.Read
import WorkloadBindings.Proofs.Workload.Stored

/-!
# Workloads as the client reads them

The client of the API reads a workload out of the text of a reply, alone or in a list. Whatever the API
replies, a workload that is read (`Client.Reads`) is written in order (`Client.Reads.isOrdered`): what the
text holds is ordered as soon as it is read, and decoding keeps it so.
-/

namespace WorkloadBindings

namespace Reply

/-- What is decoded without a fault. -/
theorem eq_ok_of_decoded {α : Type} {result : Except DecodeError α} {a : α}
    (h : decoded result = .ok a) : result = .ok a := by
  cases result with
  | error cause => cases h
  | ok b => exact congrArg _ (Except.ok.inj h)

/-- What a reply brings of a shape that is written in order is ordered. -/
theorem isOrdered_of_read {shape : Shape} (hshape : shape.isAscending = true) {r : Reply} {j : Json}
    (h : r.read shape = .ok j) : j.isOrdered = true := by
  unfold read at h
  split at h
  · cases h
  · exact Shape.isOrdered_of_parse hshape (eq_ok_of_decoded h)

end Reply

namespace Client

open Dialogue (leaves_bind_done_iff leaves_done_iff)
open Reply (eq_ok_of_decoded)

/-- What was found is what was brought. -/
theorem eq_ok_of_foundOrNone {α : Type} {result : Except ApiFailure α} {a : α}
    (h : foundOrNone result = .ok (some a)) : result = .ok a := by
  unfold foundOrNone at h
  split at h
  · exact congrArg _ (Option.some.inj (Except.ok.inj h))
  · split at h <;> cases h
  · cases h

/-- The objects of an ordered list are ordered. -/
theorem isOrdered_of_mem_itemsOf {j object : Json} (h : j.isOrdered = true)
    (hobject : object ∈ Dynamic.itemsOf j) : object.isOrdered = true := by
  unfold Dynamic.itemsOf at hobject
  cases hitems : j.get? "items" with
  | none =>
    rw [hitems] at hobject
    cases hobject
  | some items =>
    rw [hitems] at hobject
    have hordered := Json.isOrdered_of_member h hitems
    cases items with
    | arr xs => exact (Json.isOrdered_arr_iff xs).1 hordered object hobject
    | _ => cases hobject

/-- What the answer to a request is made of is ordered, when the shape of the reply is written in order. -/
theorem exists_of_send {α : Type} {request : Except ApiFailure Request} {shape : Shape}
    {ofJson : Json → α} {said : Dialogue.Said fun _ : Request => Reply} {a : α}
    (hshape : shape.isAscending = true)
    (h : (Request.send request shape ofJson).Leaves said (.done (.ok a))) :
    ∃ j, j.isOrdered = true ∧ ofJson j = a := by
  unfold Request.send at h
  split at h
  · obtain ⟨-, heq⟩ := leaves_done_iff.1 h
    cases Dialogue.done.inj heq
  · obtain ⟨reply, _, _, -, hread, -⟩ := leaves_bind_done_iff.1 h
    obtain ⟨-, heq⟩ := leaves_done_iff.1 hread
    obtain ⟨j, hj, hofJson⟩ := exists_of_map_eq_ok (Dialogue.done.inj heq).symm
    exact ⟨j, Reply.isOrdered_of_read hshape hj, hofJson⟩

/-- A workload that the client of the API has read, by its name or with those that a selector picks. -/
inductive Reads : Workload → Prop where
  | got {type : ResourceType} {ns name : String} {said : Dialogue.Said fun _ : Request => Reply}
      {w : Workload} (h : (get type ns name).Leaves said (.done (.ok (some w)))) : Reads w
  | listed {type : ResourceType} {ns : String} {selector : Selector}
      {said : Dialogue.Said fun _ : Request => Reply} {found : List Workload} {w : Workload}
      (h : (list type ns selector).Leaves said (.done (.ok found))) (hw : w ∈ found) : Reads w

/-- A workload is read by its name when the reply holds an object that decodes to it. -/
theorem Reads.of_reply {type : ResourceType} {ns name : String} {request : Request} {reply : Reply}
    {object : Json} {w : Workload} (hrequest : Request.get (type.namespacedPath ns) name = .ok request)
    (hreply : reply.read Dynamic.shape = .ok object) (hw : Workload.decode object = .ok w) :
    Reads w := by
  have hsend : (Request.send (Request.get (type.namespacedPath ns) name) Dynamic.shape id).Leaves
      [⟨request, reply⟩] (.done (.ok object)) := by
    have hread : (reply.read Dynamic.shape).map id = .ok object := by
      rw [hreply]
      rfl
    unfold Request.send
    rw [hrequest]
    exact ⟨_, rfl, congrArg Dialogue.done hread⟩
  have hget : (get type ns name).Leaves ([⟨request, reply⟩] ++ []) (.done (.ok (some w))) :=
    hsend.bind (congrArg (fun result => Dialogue.done ((Reply.decoded result).map some)) hw)
  exact .got hget

/-- Whatever the client has read is written in order. -/
theorem Reads.isOrdered {w : Workload} (h : Reads w) : w.toJson.isOrdered = true := by
  cases h with
  | got h =>
    obtain ⟨answer, _, _, hsend, hend, -⟩ := leaves_bind_done_iff.1 h
    obtain ⟨-, heq⟩ := leaves_done_iff.1 hend
    have hfound := (Dialogue.done.inj heq).symm
    split at hfound
    · cases hfound
    · rename_i object hobject
      obtain ⟨j, hj, rfl⟩ := exists_of_send (by decide) (eq_ok_of_foundOrNone hobject ▸ hsend)
      obtain ⟨v, hv, hvw⟩ := exists_of_map_eq_ok hfound
      obtain rfl := Option.some.inj hvw
      exact (Workload.isWritten_of_decode hj (eq_ok_of_decoded hv)).ordered
    · cases hfound
  | listed h hw =>
    obtain ⟨answer, _, _, hsend, hend, -⟩ := leaves_bind_done_iff.1 h
    obtain ⟨-, heq⟩ := leaves_done_iff.1 hend
    obtain ⟨objects, rfl, hdecoded⟩ := exists_of_bind_eq_ok (Dialogue.done.inj heq).symm
    obtain ⟨object, hobject, hv⟩ := exists_of_mem_mapM (eq_ok_of_decoded hdecoded) hw
    obtain ⟨j, hj, rfl⟩ := exists_of_send (by decide) hsend
    exact (Workload.isWritten_of_decode (isOrdered_of_mem_itemsOf hj hobject) hv).ordered

end Client

end WorkloadBindings
