/-
This file is about a service that takes the requests of its clients one after the other. A
request changes what the clients share and what the service keeps of the one client, and has
one answer. The order of the requests over all clients decides everything: the answers of a
client are as many as its requests, and what is kept of it changes with its own requests
only. A server that runs operations side by side is correct if what it does can be read as
such an order.
-/

import Mathlib

namespace PairDriver.SequentialService

/-- What a request does: the shared state and what is kept of the client change, and there is an
answer. -/
abbrev Handler (Shared Kept Request Answer : Type) :=
  Shared → Kept → Request → Shared × Kept × Answer

/-- A service after some requests. -/
structure Served (Client Shared Kept Answer : Type) where
  shared : Shared
  kept : Client → Kept
  answers : Client → List Answer

section Service

variable {Client Shared Kept Request Answer : Type} [DecidableEq Client]
  (handle : Handler Shared Kept Request Answer)

def begin (shared : Shared) (kept : Kept) : Served Client Shared Kept Answer where
  shared := shared
  kept := fun _ => kept
  answers := fun _ => []

/-- One request of a client. -/
def Served.request (served : Served Client Shared Kept Answer) (client : Client)
    (request : Request) : Served Client Shared Kept Answer :=
  let done := handle served.shared (served.kept client) request
  { shared := done.1
    kept := Function.update served.kept client done.2.1
    answers := Function.update served.answers client (served.answers client ++ [done.2.2]) }

/-- The requests of all clients in one order. -/
def serve (start : Served Client Shared Kept Answer) (order : List (Client × Request)) :
    Served Client Shared Kept Answer :=
  order.foldl (fun served entry => served.request handle entry.1 entry.2) start

/-- The requests of one client. -/
def requestsOf (client : Client) (order : List (Client × Request)) : List Request :=
  (order.filter fun entry => entry.1 = client).map Prod.snd

theorem serve_concat (start : Served Client Shared Kept Answer) (order : List (Client × Request))
    (client : Client) (request : Request) :
    serve handle start (order ++ [(client, request)]) =
      (serve handle start order).request handle client request :=
  List.foldl_concat _ _ _ _

theorem requestsOf_concat_self (client : Client) (order : List (Client × Request))
    (request : Request) :
    requestsOf client (order ++ [(client, request)]) = requestsOf client order ++ [request] := by
  rw [requestsOf, List.filter_append, List.map_append, List.filter_singleton]
  simp [requestsOf]

theorem requestsOf_concat_other {client other : Client} (different : other ≠ client)
    (order : List (Client × Request)) (request : Request) :
    requestsOf client (order ++ [(other, request)]) = requestsOf client order := by
  rw [requestsOf, List.filter_append, List.map_append, List.filter_singleton]
  simp [requestsOf, different]

theorem request_answers_self (served : Served Client Shared Kept Answer) (client : Client)
    (request : Request) :
    (served.request handle client request).answers client =
      served.answers client ++ [(handle served.shared (served.kept client) request).2.2] :=
  Function.update_self _ _ _

theorem request_answers_other {client other : Client} (different : other ≠ client)
    (served : Served Client Shared Kept Answer) (request : Request) :
    (served.request handle client request).answers other = served.answers other :=
  Function.update_of_ne different _ _

theorem request_kept_self (served : Served Client Shared Kept Answer) (client : Client)
    (request : Request) :
    (served.request handle client request).kept client =
      (handle served.shared (served.kept client) request).2.1 :=
  Function.update_self _ _ _

theorem request_kept_other {client other : Client} (different : other ≠ client)
    (served : Served Client Shared Kept Answer) (request : Request) :
    (served.request handle client request).kept other = served.kept other :=
  Function.update_of_ne different _ _

/-- Each request has one answer. -/
theorem length_answers (shared : Shared) (kept : Kept) (order : List (Client × Request))
    (client : Client) :
    ((serve handle (begin shared kept) order).answers client).length =
      (requestsOf client order).length := by
  induction order using List.reverseRecOn with
  | nil => rfl
  | append_singleton order entry inductionHypothesis =>
    obtain ⟨other, request⟩ := entry
    rw [serve_concat]
    by_cases same : other = client
    · rw [same, request_answers_self, requestsOf_concat_self, List.length_append,
        List.length_append, inductionHypothesis]
      rfl
    · rw [request_answers_other handle (Ne.symm same), requestsOf_concat_other same,
        inductionHypothesis]

end Service

end PairDriver.SequentialService
