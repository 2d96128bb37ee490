import Courier.Proofs.Happenings
import Courier.Proofs.Json.Trees
import Courier.Proofs.Recipients
import Courier.Service
import Mathlib.Data.List.Perm.Subperm

/-!
# What is posted says what was meant

Emails and chat messages are posted as JSON with texts of callers inside. Whatever characters these texts have, a reader
of JSON finds the members that are meant, each with the very text, and no others (`Mailer.parse_letter`,
`Webhook.parse_body`). `Channel.wording` is what there is to be read for a channel. A call makes at most one post
(`Call.outgoing?`), so the posts that are made during some exchanges are among those that the calls make
(`Service.Posts`); during a dispatch they are read as the wordings for its channels, each at most once
(`Service.posted_wordings`).
-/

namespace Courier

open Exchange

/-- What a post that reaches a channel says to a reader of JSON. -/
def Channel.wording (c : Channel) (sender title message : String) : Json :=
  match c.platform with
  | .email => .object [("from", .text sender), ("to", .list [.text c.target]), ("subject", .text title),
    ("text", .text message)]
  | .slack => .object [("text", .text (title ++ ": " ++ message))]
  | .discord => .object [("content", .text (title ++ ": " ++ message))]

/-! ## Reading one post -/

theorem Mailer.parse_letter (m : Mailer) (e : Email) : Json.parse (Json.write (m.letter e)) = .ok (m.letter e) :=
  Json.parse_write ⟨trivial, ⟨trivial, trivial⟩, trivial, trivial, trivial⟩

theorem Mailer.body_of_post {m : Mailer} {e : Email} {o : Outgoing} (h : m.post e = .ok o) :
    o.body = Json.write (m.letter e) := by
  unfold post at h
  cases hkey : m.key with
  | none =>
    rw [hkey] at h
    cases h
  | some key =>
    rw [hkey] at h
    cases husable : Delivery.usable (m.base ++ "/emails") with
    | error e =>
      simp only [husable] at h
      cases h
    | ok usable =>
      simp only [husable, bind, Except.bind] at h
      split at h
      · cases h
        rfl
      · cases h

theorem Webhook.body_of_post {url : String} {body : Json} {o : Outgoing} (h : Webhook.post url body = .ok o) :
    o.body = Json.write body := by
  unfold post at h
  cases husable : Delivery.usable url with
  | error e =>
    rw [husable] at h
    cases h
  | ok usable =>
    rw [husable] at h
    cases h
    rfl

theorem Webhook.parse_body {p : Platform} {title message : String} {body : Json}
    (h : Dispatch.webhookBody p title message = some body) : Json.parse (Json.write body) = .ok body := by
  cases p with
  | email => cases h
  | slack =>
    cases h
    exact Json.parse_write ⟨trivial, trivial⟩
  | discord =>
    cases h
    exact Json.parse_write ⟨trivial, trivial⟩

/-- The post that a call makes, if it makes one. -/
def Call.outgoing? (m : Mailer) : Call → Option Outgoing
  | .sendEmail e => (m.post e).toOption
  | .post url body => (Webhook.post url body).toOption
  | _ => none

theorem toOption_eq_some_iff {ε α : Type} {x : Except ε α} {a : α} : x.toOption = some a ↔ x = .ok a := by
  cases x <;> simp [Except.toOption]

/-- A post for a channel is read as what was meant for the channel. -/
theorem Dispatch.parse_delivery {m : Mailer} {n : Notification} {c : Channel} {o : Outgoing}
    (h : (Dispatch.delivery n c).outgoing? m = some o) :
    Json.parse o.body = .ok (c.wording (m.sender.getD Mailer.standardSender) n.title n.message) := by
  unfold Channel.wording
  rw [Dispatch.delivery_eq_due] at h
  unfold Channel.due at h
  cases hplatform : c.platform with
  | email =>
    rw [hplatform] at h
    rw [Mailer.body_of_post (toOption_eq_some_iff.mp h)]
    exact m.parse_letter _
  | slack =>
    rw [hplatform] at h
    rw [Webhook.body_of_post (toOption_eq_some_iff.mp h)]
    exact Webhook.parse_body (p := .slack) rfl
  | discord =>
    rw [hplatform] at h
    rw [Webhook.body_of_post (toOption_eq_some_iff.mp h)]
    exact Webhook.parse_body (p := .discord) rfl

/-! ## Reading what has been posted -/

namespace Service

/-- From one state to another the service has made some of the posts that certain calls make, in their order. -/
structure Posts (s t : Service) (cs : List Call) : Prop where
  mailer : t.mailer = s.mailer
  posted : ∃ made : List Outgoing, t.posted = made.reverse ++ s.posted ∧
    made.Sublist (cs.filterMap (Call.outgoing? s.mailer))

variable {s t u : Service}

theorem Posts.of_eq (hmailer : t.mailer = s.mailer) (hposted : t.posted = s.posted) (cs : List Call) : s.Posts t cs :=
  ⟨hmailer, [], hposted, List.nil_sublist _⟩

theorem Posts.trans {cs ds : List Call} (h : s.Posts t cs) (h' : t.Posts u ds) : s.Posts u (cs ++ ds) := by
  obtain ⟨hmailer, made, hposted, hmade⟩ := h
  obtain ⟨hmailer', made', hposted', hmade'⟩ := h'
  rw [hmailer] at hmade'
  refine ⟨hmailer'.trans hmailer, made ++ made', ?_, ?_⟩
  · rw [hposted', hposted, List.reverse_append, List.append_assoc]
  · rw [List.filterMap_append]
    exact hmade.append hmade'

/-- A post that can be made is made at most once. -/
theorem posts_exchange {α : Type} {c : Call} {post : Except String Outgoing}
    (hpost : c.outgoing? s.mailer = post.toOption) (judge : Outgoing → Incoming → Except String α) :
    s.Posts (s.exchange post judge).2 [c] := by
  unfold exchange
  cases post with
  | error e => exact .of_eq rfl rfl _
  | ok o =>
    have hmade : [c].filterMap (Call.outgoing? s.mailer) = [o] := List.filterMap_cons_some hpost
    cases hweb : s.web.exchange o with
    | none =>
      simp only [hweb]
      exact .of_eq rfl rfl _
    | some i =>
      simp only [hweb]
      exact ⟨rfl, [o], rfl, by rw [hmade]⟩

/-- A call that delivers nothing is answered by the database or by the server. -/
theorem answer_of_not_delivery {c : Call} (hc : c.isDelivery = false) (s : Service) :
    (∃ database, (answer c s).2 = { s with database }) ∨ ∃ redis, (answer c s).2 = { s with redis } := by
  cases h : s.database.answer? c with
  | none =>
    refine .inr ⟨(s.redis.answer c).2, ?_⟩
    cases c with
    | sendEmail | post => cases hc
    | _ => simp only [answer, h]
  | some reply =>
    refine .inl ⟨reply.2, ?_⟩
    cases c with
    | sendEmail | post => cases hc
    | _ => simp only [answer, h]

/-- **One call.** -/
theorem posts_answer (c : Call) (s : Service) : s.Posts (answer c s).2 [c] := by
  by_cases hc : c.isDelivery = true
  · cases c with
    | sendEmail e => exact posts_exchange rfl _
    | post url body => exact posts_exchange rfl _
    | _ => cases hc
  · rcases answer_of_not_delivery (Bool.eq_false_iff.mpr hc) s with ⟨database, h⟩ | ⟨redis, h⟩
    · exact .of_eq (by rw [h]) (by rw [h]) _
    · exact .of_eq (by rw [h]) (by rw [h]) _

/-- **A run.** -/
theorem posts_of_happen {es : List Exchange} (h : Happen answer es s t) : s.Posts t (es.map Exchange.call) := by
  induction h with
  | rest s => exact .of_eq rfl rfl _
  | answered later ih => exact (posts_answer _ _).trans ih
  | @failed c es s t e later ih =>
    have hfailed : s.Posts s [c] := .of_eq rfl rfl _
    exact hfailed.trans ih

end Service

namespace Dispatch

/-- The wordings for the channels of a payload. -/
def wordings (sender : String) (payload : Octets) : List Json :=
  match (Wire.decode payload : Except Json.Problem Notification) with
  | .ok n => n.channels.values.map fun c => c.wording sender n.title n.message
  | .error _ => []

/-- The posts for some channels are read as the wordings for them, but not every delivery is posted. -/
theorem sublist_wordings (m : Mailer) (n : Notification) (cs : List Channel) :
    (((cs.map (delivery n)).filterMap (Call.outgoing? m)).map fun o => Json.parse o.body).Sublist
      (cs.map fun c => .ok (c.wording (m.sender.getD Mailer.standardSender) n.title n.message)) := by
  induction cs with
  | nil => exact .slnil
  | cons c cs ih =>
    cases hpost : (delivery n c).outgoing? m with
    | none =>
      rw [List.map_cons, List.filterMap_cons_none hpost]
      exact ih.cons _
    | some o =>
      rw [List.map_cons, List.filterMap_cons_some hpost, List.map_cons, parse_delivery hpost]
      exact ih.cons_cons _

/-- The posts that a dispatch makes are read as wordings for its channels. -/
theorem subperm_wordings (m : Mailer) {payload : Octets} {es : List Exchange} {a : Except RelayError Outcome}
    (h : (dispatch payload).Unfolds es a) :
    (((es.map Exchange.call).filterMap (Call.outgoing? m)).map fun o => Json.parse o.body).Subperm
      ((wordings (m.sender.getD Mailer.standardSender) payload).map .ok) := by
  cases hdecode : (Wire.decode payload : Except Json.Problem Notification) with
  | error p =>
    rw [dispatch_of_unreadable hdecode] at h
    obtain ⟨rfl, -⟩ := Plan.unfolds_done_iff.mp h
    exact List.nil_subperm
  | ok n =>
    by_cases hnonneg : 0 ≤ n.retries
    · rw [dispatch_of_decode hdecode hnonneg] at h
      -- a dispatch also writes down what it could not deliver, but that is no post
      have hcalls : (es.map Exchange.call).filterMap (Call.outgoing? m) =
          ((es.map Exchange.call).filter Call.isDelivery).filterMap (Call.outgoing? m) := by
        rw [List.filterMap_filter]
        congr 1
        funext c
        cases c <;> rfl
      have hperm := ((attempts_perm h).filterMap (Call.outgoing? m)).map fun o => Json.parse o.body
      rw [hcalls, wordings, hdecode, List.map_map]
      exact hperm.subperm.trans (sublist_wordings m n n.channels.values).subperm
    · obtain ⟨reason, hrefused⟩ := dispatch_of_negative hdecode (Int64.not_le.mp hnonneg)
      rw [hrefused] at h
      obtain ⟨rfl, -⟩ := Plan.unfolds_done_iff.mp h
      exact List.nil_subperm

end Dispatch

/-- **What is posted says what was meant.** Whatever the texts are, the JSON for a chat message is read as an object
with one member, which is called as the chat service has it and holds the title and the message; the JSON for an email is
read as an object with the sender, the recipient alone in a list, the subject and the text; and this JSON is what is
posted. So whatever a dispatch goes through, and whichever calls fail, all that is posted meanwhile is read as wordings
for the channels of its payload, each of them at most once. -/
theorem Service.posted_wordings :
    (∀ title message : String,
      (∃ body, Dispatch.webhookBody .slack title message = some body ∧
        Json.parse (Json.write body) = .ok (.object [("text", .text (title ++ ": " ++ message))])) ∧
      (∃ body, Dispatch.webhookBody .discord title message = some body ∧
        Json.parse (Json.write body) = .ok (.object [("content", .text (title ++ ": " ++ message))])) ∧
      Dispatch.webhookBody .email title message = none) ∧
    (∀ url body o, Webhook.post url body = .ok o → o.body = Json.write body) ∧
    (∀ (m : Mailer) (e : Email), Json.parse (Json.write (m.letter e)) = .ok (.object
      [("from", .text (m.sender.getD Mailer.standardSender)), ("to", .list [.text e.recipient]),
        ("subject", .text e.subject), ("text", .text e.body)])) ∧
    (∀ (m : Mailer) (e : Email) o, m.post e = .ok o → o.body = Json.write (m.letter e)) ∧
    ∀ (s t : Service) payload es a, (Dispatch.dispatch payload).Unfolds es a → Happen answer es s t →
      ∃ made : List Outgoing, t.posted = made.reverse ++ s.posted ∧
        (made.map fun o => Json.parse o.body).Subperm
          ((Dispatch.wordings (s.mailer.sender.getD Mailer.standardSender) payload).map .ok) := by
  refine ⟨fun title message => ⟨⟨_, rfl, ?_⟩, ⟨_, rfl, ?_⟩, rfl⟩, fun url body o h => Webhook.body_of_post h,
    fun m e => m.parse_letter e, fun m e o h => Mailer.body_of_post h, fun s t payload es a hunfolds hhappen => ?_⟩
  · exact Webhook.parse_body (p := .slack) rfl
  · exact Webhook.parse_body (p := .discord) rfl
  · obtain ⟨made, hposted, hmade⟩ := (posts_of_happen hhappen).posted
    exact ⟨made, hposted, (hmade.map _).subperm.trans (Dispatch.subperm_wordings s.mailer hunfolds)⟩

/-- A text that would end the string that it is put into, and name somebody else. -/
def forgery : String := "\", \"to\": [\"eve@example.com\"], \"\\\n"

/-- A forged notification for a channel on each platform. -/
def Notification.forged : Notification where
  uuid := "n-1"
  title := forgery
  message := forgery
  channels := .ofList [(7, ⟨7, .email, "ann@example.com", "ops"⟩), (8, ⟨8, .slack, "http://chat/8", "ops"⟩),
    (9, ⟨9, .discord, "http://chat/9", "ops"⟩)]
  event := ⟨"approved", "EUR", "ann", "bob", "transfer", 1, 100⟩
  retries := 0

/-- A service that can send emails. -/
def Service.mailing : Service :=
  { Service.new "key" "t" (.empty (fun _ => "") fun _ => .epoch) with mailer := ⟨some "key", none, "http://mail"⟩ }

theorem Service.posted_wordings_forged :
    (∃ o, Webhook.post "http://chat/8" (.object [("text", .text forgery)]) = .ok o ∧
      o.body = Json.write (.object [("text", .text forgery)])) ∧
    (∃ o, mailing.mailer.post ⟨"ann@example.com", forgery, forgery⟩ = .ok o ∧
      o.body = Json.write (mailing.mailer.letter ⟨"ann@example.com", forgery, forgery⟩)) ∧
    ∃ made : List Outgoing, made.length = 3 ∧ (made.map fun o => Json.parse o.body).Subperm
      [.ok (.object [("from", .text Mailer.standardSender), ("to", .list [.text "ann@example.com"]),
          ("subject", .text forgery), ("text", .text forgery)]),
        .ok (.object [("text", .text (forgery ++ ": " ++ forgery))]),
        .ok (.object [("content", .text (forgery ++ ": " ++ forgery))])] := by
  obtain ⟨-, hwebhook, -, hmailer, hdispatch⟩ := posted_wordings
  have hchat : ∃ o, Webhook.post "http://chat/8" (.object [("text", .text forgery)]) = .ok o := ⟨_, rfl⟩
  have hmail : ∃ o, mailing.mailer.post ⟨"ann@example.com", forgery, forgery⟩ = .ok o := ⟨_, rfl⟩
  refine ⟨hchat.imp fun o ho => ⟨ho, hwebhook _ _ o ho⟩, hmail.imp fun o ho => ⟨ho, hmailer _ _ o ho⟩, ?_⟩
  have hnonneg : (0 : Int64) ≤ 0 := by decide
  have hdecode : Wire.decode (Wire.encode Notification.forged) = .ok Notification.forged := decode_encode_notification _
  have hdeliver := Dispatch.dispatch_of_decode hdecode hnonneg
  obtain ⟨made, hposted, hmade⟩ := hdispatch mailing _ (Wire.encode Notification.forged) _ _
    (Plan.unfolds_run _ answer mailing) (happen_run _ _ mailing)
  rw [Dispatch.wordings, hdecode] at hmade
  rw [hdeliver] at hposted
  refine ⟨made, ?_, hmade⟩
  have hthree : ((Dispatch.deliver .forged).run answer mailing).2.posted.length = 3 := rfl
  rw [hposted, List.length_append, List.length_reverse] at hthree
  exact hthree

end Courier
