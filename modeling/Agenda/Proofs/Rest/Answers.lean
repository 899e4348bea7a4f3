import Agenda.Proofs.Conversation
import Agenda.Proofs.Json.List
import Agenda.Proofs.Wire
import Agenda.Rest.Route

/-! Which events an answer shows to the client. -/
namespace Agenda

open Json

theorem Event.codec_faithful : codec.Faithful := by
  apply Codec.record_faithful (fields_faithful _)
  · decide
  · exact List.cons_ne_nil _ _
  · intro e
    rfl

theorem Event.replyCodec_faithful : replyCodec.Faithful := by
  apply Codec.record_faithful
  · exact ⟨codec_faithful, trivial⟩
  · decide
  · exact List.cons_ne_nil _ _
  · intro e
    rfl

theorem Event.listingCodec_faithful : listingCodec.Faithful := by
  apply Codec.record_faithful
  · exact ⟨Codec.list_faithful codec_faithful (Codec.record_opens _ _ _ _), trivial⟩
  · decide
  · exact List.cons_ne_nil _ _
  · intro events
    rfl

theorem deletionCodec_faithful : deletionCodec.Faithful := by
  apply Codec.record_faithful
  · exact ⟨Codec.text_faithful, trivial⟩
  · decide
  · exact List.cons_ne_nil _ _
  · intro id
    rfl

namespace Rest.Response

/-- The answer is written in JSON, and it is read as just this. -/
structure Carries {α : Type} (r : Response) (status : Nat) (codec : Codec α) (x : α) : Prop where
  written : r = json status (codec.write x)
  read : codec.decode (Text.bytes r.body) = .ok x

theorem carries {α : Type} {codec : Codec α} (faithful : codec.Faithful) (status : Nat) (x : α) :
    (json status (codec.write x)).Carries status codec x :=
  ⟨rfl, Codec.decode_encode faithful x⟩

/-- The answer lists the event, or it is the answer that shows just this event. -/
inductive Shows (r : Response) (e : Event) : Prop
  | listed (status : Nat) (events : List Event) (member : e ∈ events)
    (answer : r = .json status (Event.listingCodec.write events))
  | alone (status : Nat) (answer : r = .json status (Event.replyCodec.write e))

variable {status : Nat} {body : String} {e : Event}

theorem json_inj {status' : Nat} {body' : String} (same : json status body = json status' body') :
    body = body' :=
  congrArg Response.body same

/-- Answers of different kinds have different members. -/
theorem json_ne {α β ρ σ ρ' σ' : Type} {name name' : String} {fs : Fields ρ σ} {gs : Fields ρ' σ'}
    {make : ρ → α} {parts : α → ρ} {make' : ρ' → β} {parts' : β → ρ'} {key key' : String}
    (first : fs.keys.head? = some key) (first' : gs.keys.head? = some key') (other : key ≠ key')
    (x : α) (y : β) (status status' : Nat) :
    json status ((Codec.record name fs make parts).write x) ≠
      json status' ((Codec.record name' gs make' parts').write y) := by
  intro same
  exact other (Fields.first_key (json_inj same) first first')

theorem shows_listing {events : List Event}
    (h : (json status (Event.listingCodec.write events)).Shows e) : e ∈ events := by
  cases h with
  | listed status' events' member answer =>
    rw [Codec.write_injective Event.listingCodec_faithful (json_inj answer)]
    exact member
  | alone status' answer => exact absurd answer (json_ne rfl rfl (by decide) _ _ _ _)

theorem shows_reply {d : Event} (h : (json status (Event.replyCodec.write d)).Shows e) :
    e = d := by
  cases h with
  | listed status' events member answer =>
    exact absurd answer (json_ne rfl rfl (by decide) _ _ _ _)
  | alone status' answer =>
    exact (Codec.write_injective Event.replyCodec_faithful (json_inj answer)).symm

/-- An answer with other members shows no event. -/
theorem not_shows_record {α ρ σ : Type} {name key : String} {fs : Fields ρ σ} {make : ρ → α}
    {parts : α → ρ} (first : fs.keys.head? = some key) (notListing : key ≠ "events")
    (notReply : key ≠ "event") (x : α) :
    ¬ (json status ((Codec.record name fs make parts).write x)).Shows e := by
  rintro (⟨status', events, member, answer⟩ | ⟨status', answer⟩)
  · exact json_ne first rfl notListing _ _ _ _ answer
  · exact json_ne first rfl notReply _ _ _ _ answer

/-- Only answers in JSON show events. -/
theorem not_shows_of_contentType {r : Response} (other : r.contentType ≠ some "application/json") :
    ¬ r.Shows e := by
  rintro (⟨status', events, member, rfl⟩ | ⟨status', rfl⟩) <;> exact other rfl

end Rest.Response

namespace Rest

variable {e : Event} {r : Request} {response : Response}

theorem refusal_shows (error : OperationError) : ¬ (refusal error).1.Shows e := by
  apply Response.not_shows_of_contentType
  change some "text/html; charset=utf-8" ≠ some "application/json"
  decide

theorem unreadable_shows (body : String) : ¬ (Response.unreadable body).Shows e := by
  apply Response.not_shows_of_contentType
  change some "text/plain; charset=utf-8" ≠ some "application/json"
  decide

/-- What an operation shows when it is done. -/
theorem Pending.settle_shows {p : Pending} {a : p.call.Answer}
    (shows_event : (p.settle a).1.Shows e)
    (queried : ∀ span events, (⟨p.call, a⟩ : Answered) = ⟨.findByStartDate span, .ok events⟩ →
      ∀ d ∈ events, d.startDate ≤ d.endDate) : e.startDate ≤ e.endDate := by
  cases p with
  | creating d valid | updating d valid =>
    rcases a with error | done
    · exact absurd shows_event (refusal_shows _)
    · exact Response.shows_reply shows_event ▸ valid
  | removing id =>
    rcases a with error | done
    · exact absurd shows_event (refusal_shows _)
    · exact absurd shows_event (Response.not_shows_record rfl (by decide) (by decide) id)
  | listing span =>
    rcases a with error | events
    · exact absurd shows_event (refusal_shows _)
    · exact queried span events rfl e (Response.shows_listing shows_event)

/-! What is answered right away shows no event. -/

theorem Exchange.start_shows {operation : Operation}
    (answered : (start operation).1 = .answered response) : ¬ response.Shows e := by
  cases operation with
  | create d | update d =>
    simp only [start] at answered
    split at answered
    · cases answered
    · cases answered
      exact refusal_shows _
  | remove id => cases answered
  | list range =>
    simp only [start] at answered
    split at answered
    · cases answered
      exact refusal_shows _
    · cases answered

theorem Request.read_shows {α : Type} {codec : Codec α} (failed : r.read codec = .error response) :
    ¬ response.Shows e := by
  unfold Request.read at failed
  split at failed
  · split at failed <;> cases failed
    exact unreadable_shows _
  · cases failed
    exact unreadable_shows _

theorem Request.range_shows (failed : r.range = .error response) : ¬ response.Shows e := by
  unfold Request.range at failed
  split at failed <;> cases failed
  exact unreadable_shows _

theorem Request.operation_shows (failed : r.operation = .error response) :
    ¬ response.Shows e := by
  unfold Request.operation at failed
  split at failed
  · cases failed
    exact Response.not_shows_of_contentType (by decide)
  · cases failed
    exact Response.not_shows_record rfl (by decide) (by decide) greeting
  · cases read : r.read Event.creationCodec with
    | error fault => rw [read] at failed; cases failed; exact Request.read_shows read
    | ok d => rw [read] at failed; cases failed
  · cases read : r.read Revision.codec with
    | error fault => rw [read] at failed; cases failed; exact Request.read_shows read
    | ok revision => rw [read] at failed; cases failed
  · cases failed
  · cases read : r.range with
    | error fault => rw [read] at failed; cases failed; exact Request.range_shows read
    | ok range => rw [read] at failed; cases failed

theorem Exchange.ofRequest_shows (answered : (ofRequest r).1 = .answered response) :
    ¬ response.Shows e := by
  unfold ofRequest at answered
  split at answered
  · rename_i failed
    cases answered
    exact Request.operation_shows failed
  · exact start_shows answered

end Rest
end Agenda
