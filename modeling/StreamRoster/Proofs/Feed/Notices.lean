import StreamRoster.Proofs.Feed.Moves
import StreamRoster.Proofs.Feed.Requests

/-!
# Notices of a Subscription

Whoever watches a source hears that an attempt starts, and should hear how it
ends. `Notice.ending` is what there is to hear of an answer.

An attempt that gets as far as connecting closes what it opened: if it is
answered, then the watcher hears the start and that ending, and nothing else.
An attempt that has no request to send does not. It is answered with a fault,
and the watcher still hears only the start. Which attempts those are is a
matter of the source alone.

## Main definitions

* `Notice.ending`: What there is to hear of an answer.

## Theorems

* `notices_of_subscribe`: What is heard of a subscription that is answered.
* `notices_of_unwritable_key`: A fault that is not heard of.
* `notices_of_unreachable_peer`: One that is.
-/

namespace StreamRoster

namespace Feed

/-- What there is to hear of an answer. -/
def Notice.ending : Except Fault Unit → Notice
  | .ok () => .connected
  | .error fault => .failed fault

namespace Session

/-- What is heard of a subscription that finds the slot empty and is answered.
    If the source has a request, it is the start and the ending that goes with
    the answer, so that a failure is heard of exactly if the answer is a fault.
    If the source has none, because its target cannot be read or its key has a
    control character, then the answer is that fault and only the start is
    heard. -/
theorem notices_of_subscribe (s : Session) (attempt : Attempt) (answer : Except Fault Unit)
    (hactive : s.active = none) (hanswer : (s.subscribe attempt).2 = some answer) :
    (∀ request, s.source.request = .ok request →
        (s.subscribe attempt).1.notices = s.notices ++ [.connecting, .ending answer]) ∧
      (∀ fault, s.source.request = .error fault → answer = .error (.request fault) ∧
        (s.subscribe attempt).1.notices = s.notices ++ [.connecting]) ∧
      ((∃ fault, s.source.request = .error fault) ↔
        (∃ fault, Target.parse s.source.url.text = .error fault) ∨
          ∃ key, s.source.key = some key ∧
            ∃ c ∈ key.toList, Authorization.isControl c = true) := by
  have hrule := subscribes s attempt
  generalize s.subscribe attempt = result at hrule hanswer
  rcases result with ⟨t, found⟩
  rcases hanswer with rfl
  -- The answer leaves out the attempts that are given up, and the slot is empty.
  refine ⟨fun request hok => ?_, fun fault herror => ?_, s.source.request_error_iff⟩
  · cases hrule with
    | refuse attempt hattempt hoccupied =>
        rw [hactive] at hoccupied
        exact absurd hoccupied nofun
    | misrequest attempt hattempt _ fault hrequest => exact absurd (hrequest.symm.trans hok) nofun
    | connect => exact List.append_assoc _ _ _
    | fail => exact List.append_assoc _ _ _
  · cases hrule with
    | refuse attempt hattempt hoccupied =>
        rw [hactive] at hoccupied
        exact absurd hoccupied nofun
    | misrequest attempt hattempt _ fault hrequest =>
        rcases Except.error.inj (hrequest.symm.trans herror) with rfl
        exact ⟨rfl, rfl⟩
    | connect _ request hrequest => exact absurd (hrequest.symm.trans herror) nofun
    | fail _ request hrequest => exact absurd (hrequest.symm.trans herror) nofun

/-- A source whose key has a line break is answered with a fault, and the
    watcher hears of neither a connection nor a failure. -/
theorem notices_of_unwritable_key :
    (Source.new "ws://127.0.0.1:8090/api/websocket" "simulator").toOption.map (fun source =>
        ((start (source.withKey (some "k\nx"))).subscribe .connects).2) =
      some (some (.error (.request .header))) ∧
    (Source.new "ws://127.0.0.1:8090/api/websocket" "simulator").toOption.map (fun source =>
        ((start (source.withKey (some "k\nx"))).subscribe .connects).1.notices) =
      some [.connecting] := by
  constructor <;> decide +kernel

/-- A source with a request that reaches no peer is heard to start and to
    fail. -/
theorem notices_of_unreachable_peer :
    ∃ source request, Source.new "ws://127.0.0.1:8090/api/websocket" "simulator" = .ok source ∧
      source.request = .ok request ∧
      ((start source).subscribe (.fails unreachable)).1.notices =
        [.connecting, .failed (.connect unreachable)] := by
  have hmade : ((Source.new "ws://127.0.0.1:8090/api/websocket" "simulator").toOption.bind
      fun source => source.request.toOption).isSome = true := by decide +kernel
  cases hnew : Source.new "ws://127.0.0.1:8090/api/websocket" "simulator" with
  | error fault =>
      rw [hnew] at hmade
      exact absurd hmade nofun
  | ok source =>
      rw [hnew] at hmade
      cases hrequest : source.request with
      | error fault =>
          rw [Except.toOption, Option.bind_some, hrequest] at hmade
          exact absurd hmade nofun
      | ok request =>
          have hanswer : ((start source).subscribe (.fails unreachable)).2 =
              some (.error (.connect unreachable)) := by
            have hsource : ((start source).notify .connecting).source = source := rfl
            simp only [subscribe, hsource, hrequest]
            rfl
          exact ⟨source, request, rfl, hrequest,
            (notices_of_subscribe (start source) (.fails unreachable) _ rfl hanswer).1
              request hrequest⟩

end Session

end Feed

end StreamRoster
