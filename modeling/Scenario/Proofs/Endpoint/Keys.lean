import Scenario.Proofs.Endpoint.Script
import Scenario.Proofs.Json.Fields

/-!
# The keys of requests and replies

A request is registered under a key, and its reply has to arrive under the same one.  What the two
have in common is a header, and this file follows the headers from a request to the reply that is
made of it: the reply names the request in its correlation header, and the headers of the request
are copied to it where it has none of its own.

So the keys agree for every correlator but one.  A correlator that works on the correlation header
itself finds the identifier of the request there once it looks at the reply, whatever the request
has in that header.

## What is here

* `Message.get?_copyHeaders` — what is copied does not replace what is set.
* `Correlator.replyKey?_reply_copyHeaders` — the key of the reply.
* `reply_meets_request` — the key under which the endpoint stores the reply, beside the one under
  which it has registered the request.
-/

set_option autoImplicit false

namespace Scenario

namespace Message

/-- Headers that are copied are found where none has been set. -/
theorem get?_copyHeaders (m : Message) (headers : Fields Json) (name : String) :
    (m.copyHeaders headers).headers.get? name = (m.headers.get? name).or (headers.get? name) := by
  induction headers generalizing m with
  | nil => exact (Option.or_none ..).symm
  | cons field rest ih =>
    obtain ⟨n, v⟩ := field
    have hcons : m.copyHeaders ((n, v) :: rest) =
        (if m.headers.has n then m else m.withHeader n v).copyHeaders rest := rfl
    rw [hcons, ih, Fields.get?_cons, Fields.has_eq_isSome]
    cases hn : m.headers.get? n with
    | some w =>
      rw [if_pos Option.isSome_some]
      by_cases hname : name = n
      · rw [hname, hn, Option.some_or, Option.some_or]
      · rw [if_neg hname]
    | none =>
      rw [if_neg nofun, withHeader, Fields.get?_set]
      by_cases hname : name = n
      · rw [if_pos hname, if_pos hname, hname, hn, Option.some_or, Option.none_or]
      · rw [if_neg hname, if_neg hname]

/-- A reply that the headers of its request are copied to has them all but for the correlation
header, which is its own. -/
theorem headerText?_reply_copyHeaders (request : Message) (id timestamp : String) (payload : Json)
    (name : String) :
    ((request.reply id timestamp payload).copyHeaders request.headers).headerText? name =
      if name = correlationHeader then some request.id else request.headerText? name := by
  have hreply : (request.reply id timestamp payload).headers.get? name =
      if name = correlationHeader then some (.string request.id) else none := by
    rw [reply, withCorrelation, withHeader, Fields.get?_set]
    rfl
  rw [headerText?, header?, get?_copyHeaders, hreply]
  split
  · rfl
  · rfl

end Message

/-- What the key of a reply comes to if the headers of the request are copied to it. -/
theorem Correlator.replyKey?_reply_copyHeaders {c : Correlator} {request : Message} {k : String}
    (hk : c.requestKey? request = some k) (id timestamp : String) (payload : Json) :
    c.replyKey? ((request.reply id timestamp payload).copyHeaders request.headers) =
      some (if c = .header Message.correlationHeader then request.id else k) := by
  cases c with
  | messageId =>
    rw [replyKey?, Message.correlation?, Message.headerText?_reply_copyHeaders, if_pos rfl,
      if_neg nofun]
    exact hk
  | header name =>
    rw [replyKey?, Message.headerText?_reply_copyHeaders]
    by_cases hname : name = Message.correlationHeader
    · rw [if_pos hname, if_pos (congrArg _ hname)]
    · rw [if_neg hname, if_neg fun heq => hname (Correlator.header.inj heq)]
      exact hk

namespace Endpoint

variable {e : Endpoint} {ctx : Context} {request : Message} {k : String}

/-- A send remembers the key of the message and registers it before anything else happens. -/
theorem send_registers (hk : e.correlator.requestKey? request = some k) :
    ∃ next, (e.send ctx request).run =
      .take (.write ctx.scope e.keyName (.string k)) fun _ =>
        .take (.createKey e.manager k) next :=
  ⟨_, send_eq hk⟩

theorem accept_stores {reply : Message} (hk : e.correlator.replyKey? reply = some k) :
    e.accept reply = Activity.step (.storeReply e.manager k reply) := by
  rw [accept, hk]

theorem settle_later {reply : Message} {key : String} (delay : Nat)
    (hk : e.correlator.replyKey? reply = some k) :
    e.settle key (.later delay reply) = Activity.step (.schedule delay e.manager k reply) := by
  rw [settle, hk]

end Endpoint

/-- **The key of a reply is that of its request**, unless it is the correlation header that the
correlator looks at: the reply has the identifier of the request there.  So a reply with the headers
of its request that arrives by itself is stored under the key that the send has registered. -/
theorem reply_meets_request {e : Endpoint} {ctx : Context} {request : Message} {k : String}
    (hk : e.correlator.requestKey? request = some k) (id timestamp : String) (payload : Json) :
    let reply := (request.reply id timestamp payload).copyHeaders request.headers
    let replyKey := if e.correlator = .header Message.correlationHeader then request.id else k
    e.correlator.replyKey? reply = some replyKey ∧
      e.accept reply = Activity.step (.storeReply e.manager replyKey reply) ∧
      (∀ delay key, e.settle key (.later delay reply) =
        Activity.step (.schedule delay e.manager replyKey reply)) ∧
      ∃ next, (e.send ctx request).run =
        .take (.write ctx.scope e.keyName (.string k)) fun _ =>
          .take (.createKey e.manager k) next := by
  intro reply replyKey
  have hreply := Correlator.replyKey?_reply_copyHeaders hk id timestamp payload
  exact ⟨hreply, Endpoint.accept_stores hreply, fun delay key => Endpoint.settle_later delay hreply,
    Endpoint.send_registers hk⟩

/-- A header that both have is copied though the request names itself in its correlation header. -/
theorem reply_meets_request_conversation :
    let e : Endpoint := { name := "orders", correlator := .header "conversation",
                          manager := { table := 0 }, transport := .silent, channel := 0 }
    let request : Message := { id := "m", headers := [("correlation_id", .string "x"),
                                                      ("conversation", .string "c")] }
    let reply := (request.reply "r" "" .null).copyHeaders request.headers
    e.correlator.requestKey? request = some "c" ∧ e.correlator.replyKey? reply = some "c" := by
  intro e request reply
  have hk : e.correlator.requestKey? request = some "c" := by decide
  have hne : e.correlator ≠ .header Message.correlationHeader := by decide
  let ctx : Context := { scope := 0, library := ⟨"", "", []⟩, run := "" }
  have hreply := (@reply_meets_request e ctx request "c" hk "r" "" .null).1
  rw [if_neg hne] at hreply
  exact ⟨hk, hreply⟩

/-- The correlation header of a reply is not that of its request. -/
theorem replyKey?_correlationHeader :
    ¬ ∀ (c : Correlator) (request : Message) (k id timestamp : String) (payload : Json),
      c.requestKey? request = some k →
        c.replyKey? ((request.reply id timestamp payload).copyHeaders request.headers) =
          some k := by
  intro h
  have hreply := h (.header Message.correlationHeader)
    { id := "m1", headers := [("correlation_id", .string "X")], payload := .string "ping" } "X" "r"
    "" (.string "pong") (by decide)
  exact absurd hreply (by decide)

end Scenario
