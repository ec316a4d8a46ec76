import Afterveda.Onvif.App

/-!
# The life of the ONVIF server

* `app_outcome`: whatever the order of the two threads, WS-Discovery says hello first and bye last,
  bye only when the server stops; the server ends after WS-Discovery has, and not without a signal
  or an error of its HTTP port.
* `app_ends`: until the end, one of the two threads can take a step, or a connection is being
  served and waits for its client; once `g_running` has fallen they take at most eleven more steps
  of their own, accept at most one more connection, and serve as many requests as one connection
  may bring.
-/

namespace Afterveda.Onvif

open CText

variable {maxKeepAlive : ℕ}

/-! ### What a step does -/

/-- The steps of the two threads. -/
inductive App.Effect (maxKeepAlive : ℕ) (s : App) : App.Event → App → Prop
  | signal : Effect maxKeepAlive s .signal { s with running := false }
  | launch (hhttp : s.http = .launching) :
    Effect maxKeepAlive s .launch { s with http := .opening, discovery := .opening }
  | opens (hhttp : s.http = .opening) :
    Effect maxKeepAlive s (.httpContext true) { s with http := .binding }
  | opensNot (hhttp : s.http = .opening) :
    Effect maxKeepAlive s (.httpContext false)
      { s with http := .clearing (.error (bytes "failed to allocate gSOAP context")) }
  | binds (hhttp : s.http = .binding) :
    Effect maxKeepAlive s (.httpBind none) { s with http := .checking }
  | bindsNot {errno : ℤ} (hhttp : s.http = .binding) :
    Effect maxKeepAlive s (.httpBind (some errno)) { s with
      http := .clearing (.error (bytes "failed to bind ONVIF HTTP port: " ++ toDecimal errno)) }
  | turns (hhttp : s.http = .checking) (hrunning : s.running = true) :
    Effect maxKeepAlive s .httpCheck { s with http := .selecting }
  | stops (hhttp : s.http = .checking) (hrunning : s.running = false) :
    Effect maxKeepAlive s .httpCheck { s with http := .clearing (.ok ()) }
  | ready (hhttp : s.http = .selecting) :
    Effect maxKeepAlive s (.select true) { s with http := .accepting }
  | readyNot (hhttp : s.http = .selecting) :
    Effect maxKeepAlive s (.select false) { s with http := .checking }
  | accepts (hhttp : s.http = .accepting) :
    Effect maxKeepAlive s (.accept true)
      { s with http := .serving (nextKeepAlive maxKeepAlive (maxKeepAlive + 1)) }
  | acceptsNot (hhttp : s.http = .accepting) :
    Effect maxKeepAlive s (.accept false) { s with http := .checking }
  | keeps {keepAlive : ℕ} (hhttp : s.http = .serving keepAlive) (hlasts : keepAlive ≠ 0) :
    Effect maxKeepAlive s (.request true)
      { s with http := .serving (nextKeepAlive maxKeepAlive keepAlive) }
  | keepsNot {keep : Bool} {keepAlive : ℕ} (hhttp : s.http = .serving keepAlive) :
    Effect maxKeepAlive s (.request keep) { s with http := .checking }
  | hangsUp {keepAlive : ℕ} (hhttp : s.http = .serving keepAlive) :
    Effect maxKeepAlive s .hangUp { s with http := .checking }
  | clears {outcome : Outcome} (hhttp : s.http = .clearing outcome) :
    Effect maxKeepAlive s .clear { s with http := .joining outcome, running := false }
  | joins {outcome : Outcome} (hhttp : s.http = .joining outcome) (hended : s.discovery = .ended) :
    Effect maxKeepAlive s .join { s with http := .finished outcome }
  | discoveryOpens (hdiscovery : s.discovery = .opening) :
    Effect maxKeepAlive s (.discoveryContext true) { s with discovery := .binding }
  | discoveryOpensNot (hdiscovery : s.discovery = .opening) :
    Effect maxKeepAlive s (.discoveryContext false) { s with discovery := .ended }
  | discoveryBinds (hdiscovery : s.discovery = .binding) :
    Effect maxKeepAlive s (.discoveryBind true) { s with discovery := .announcing }
  | discoveryBindsNot (hdiscovery : s.discovery = .binding) :
    Effect maxKeepAlive s (.discoveryBind false) { s with discovery := .ended }
  | hello {ctx : Bool} (hdiscovery : s.discovery = .announcing) :
    Effect maxKeepAlive s (.hello ctx) { s with discovery := .checking }
  | listens (hdiscovery : s.discovery = .checking) (hrunning : s.running = true) :
    Effect maxKeepAlive s .discoveryCheck { s with discovery := .listening }
  | departs (hdiscovery : s.discovery = .checking) (hrunning : s.running = false) :
    Effect maxKeepAlive s .discoveryCheck { s with discovery := .departing }
  | probe {messageId relatesTo : Option CStr} {peer : Bool}
      (hdiscovery : s.discovery = .listening) :
    Effect maxKeepAlive s (.probe messageId relatesTo peer) s
  | resolve (hdiscovery : s.discovery = .listening) : Effect maxKeepAlive s .resolve s
  | listened (hdiscovery : s.discovery = .listening) :
    Effect maxKeepAlive s .listened { s with discovery := .checking }
  | bye {ctx : Bool} (hdiscovery : s.discovery = .departing) :
    Effect maxKeepAlive s (.bye ctx) { s with discovery := .ended }

theorem App.step_effect {s t : App} {e : App.Event} (h : s.step maxKeepAlive e = some t) :
    App.Effect maxKeepAlive s e t := by
  obtain ⟨running, http, discovery⟩ := s
  -- an event is a step in one state of its thread
  cases e with
  | signal =>
    cases h
    exact .signal
  | launch =>
    cases http <;> cases h
    exact .launch rfl
  | httpContext ok =>
    cases http <;> cases ok <;> cases h
    · exact .opensNot rfl
    · exact .opens rfl
  | httpBind errno =>
    cases http <;> cases errno <;> cases h
    · exact .binds rfl
    · exact .bindsNot rfl
  | httpCheck =>
    cases http <;> cases running <;> cases h
    · exact .stops rfl rfl
    · exact .turns rfl rfl
  | select ready =>
    cases http <;> cases ready <;> cases h
    · exact .readyNot rfl
    · exact .ready rfl
  | accept ok =>
    cases http <;> cases ok <;> cases h
    · exact .acceptsNot rfl
    · exact .accepts rfl
  | request keep =>
    cases http with
    | serving keepAlive =>
      simp only [App.step, HttpThread.step, Option.map_some, Option.some.injEq] at h
      subst h
      split_ifs with hlasts
      · obtain ⟨rfl, hlasts⟩ := hlasts
        exact .keeps rfl hlasts
      · exact .keepsNot rfl
    | _ => cases h
  | hangUp =>
    cases http <;> cases h
    exact .hangsUp rfl
  | clear =>
    cases http <;> cases h
    exact .clears rfl
  | join =>
    cases http <;> cases discovery <;> cases h
    exact .joins rfl rfl
  | discoveryContext ok =>
    cases discovery <;> cases ok <;> cases h
    · exact .discoveryOpensNot rfl
    · exact .discoveryOpens rfl
  | discoveryBind ok =>
    cases discovery <;> cases ok <;> cases h
    · exact .discoveryBindsNot rfl
    · exact .discoveryBinds rfl
  | hello ctx =>
    cases discovery <;> cases h
    exact .hello rfl
  | discoveryCheck =>
    cases discovery <;> cases running <;> cases h
    · exact .departs rfl rfl
    · exact .listens rfl rfl
  | probe messageId relatesTo peer =>
    cases discovery <;> cases h
    exact .probe rfl
  | resolve =>
    cases discovery <;> cases h
    exact .resolve rfl
  | listened =>
    cases discovery <;> cases h
    exact .listened rfl
  | bye ctx =>
    cases discovery <;> cases h
    exact .bye rfl

/-! ### Where the threads are -/

/-- `g_running` has been cleared by `run` itself. -/
def HttpThread.hasCleared : HttpThread → Bool
  | .joining _ | .finished _ => true
  | _ => false

/-- How `run` will end, once that is fixed. -/
def HttpThread.outcome : HttpThread → Option Outcome
  | .clearing outcome | .joining outcome | .finished outcome => some outcome
  | _ => none

/-- The thread of WS-Discovery is there from its launch on, nothing ends before it does, and
`g_running` has fallen where a thread has seen that. -/
structure App.Paired (s : App) : Prop where
  absent : s.http = .launching ↔ s.discovery = .absent
  departing : s.discovery = .departing → s.running = false
  cleared : s.http.hasCleared = true → s.running = false
  returns : s.http.outcome = some (.ok ()) → s.running = false
  finished : ∀ outcome, s.http = .finished outcome → s.discovery = .ended

theorem App.Paired.discovery {s : App} {next : DiscoveryThread} (hs : s.Paired)
    (hborn : s.discovery ≠ .absent) (hended : s.discovery ≠ .ended) (hnext : next ≠ .absent)
    (hdeparting : next = .departing → s.running = false) :
    App.Paired { s with discovery := next } where
  absent := iff_of_false (fun hhttp => hborn (hs.absent.mp hhttp)) hnext
  departing := hdeparting
  cleared := hs.cleared
  returns := hs.returns
  finished outcome hhttp := absurd (hs.finished outcome hhttp) hended

theorem App.Paired.http {s : App} {next : HttpThread} (hs : s.Paired)
    (hborn : s.http ≠ .launching) (hnext : next ≠ .launching)
    (hcleared : next.hasCleared = true → s.running = false)
    (hreturns : next.outcome = some (.ok ()) → s.running = false)
    (hfinished : ∀ outcome, next = .finished outcome → s.discovery = .ended) :
    App.Paired { s with http := next } where
  absent := iff_of_false hnext fun hdiscovery => hborn (hs.absent.mpr hdiscovery)
  departing := hs.departing
  cleared := hcleared
  returns := hreturns
  finished := hfinished

/-- An answer to a probe or a resolve. -/
def Message.isAnswer : Message → Bool
  | .probeMatches _ | .resolveMatches _ => true
  | _ => false

/-- A hello, or none for want of a context, and then answers. -/
def Greeted (config : Config) (sent : List Message) : Prop :=
  ∃ hello answers, sent = hello ++ answers ∧
    (hello = [] ∨ hello = [.hello (announcement config)]) ∧
    ∀ m ∈ answers, Message.isAnswer m = true

theorem Greeted.answer {config : Config} {sent : List Message} (hsent : Greeted config sent)
    {m : Option Message} (h : ∀ x ∈ m, Message.isAnswer x = true) :
    Greeted config (sent ++ m.toList) := by
  obtain ⟨hello, answers, rfl, hhello, hanswers⟩ := hsent
  refine ⟨hello, answers ++ m.toList, List.append_assoc .., hhello, fun x hx => ?_⟩
  rcases List.mem_append.mp hx with hx | hx
  · exact hanswers x hx
  · exact h x (Option.mem_toList.mp hx)

/-- A step that one of the threads takes by itself. -/
def App.Event.isOwn : App.Event → Bool
  | .signal | .probe .. | .resolve | .request _ | .hangUp => false
  | _ => true

/-- The steps the thread of WS-Discovery may still take when `g_running` has fallen. -/
def DiscoveryThread.rank : DiscoveryThread → ℕ
  | .absent | .ended => 0
  | .departing => 1
  | .checking => 2
  | .listening | .announcing => 3
  | .binding => 4
  | .opening => 5

/-- The same of the other thread; before the launch the steps of both count. -/
def HttpThread.rank : HttpThread → ℕ
  | .finished _ => 0
  | .joining _ => 1
  | .clearing _ => 2
  | .checking | .serving _ => 3
  | .accepting | .binding => 4
  | .selecting | .opening => 5
  | .launching => 11

theorem App.step_pays {s t : App} {e : App.Event} (hpaired : s.Paired) (hs : s.running = false)
    (h : s.step maxKeepAlive e = some t) :
    (if e.isOwn then 1 else 0) + (t.http.rank + t.discovery.rank) ≤
      s.http.rank + s.discovery.rank := by
  cases App.step_effect h with
  | launch hhttp =>
    rw [hhttp, hpaired.absent.mp hhttp]
    exact Nat.le_refl 11
  | _ => simp_all [App.Event.isOwn, HttpThread.rank, DiscoveryThread.rank] <;> omega

theorem App.Paired.rank_le {s : App} (hs : s.Paired) : s.http.rank + s.discovery.rank ≤ 11 := by
  have hdiscovery : s.discovery.rank ≤ 5 := by
    cases s.discovery <;> simp [DiscoveryThread.rank]
  cases hhttp : s.http with
  | launching =>
    rw [hs.absent.mp hhttp]
    exact Nat.le_refl 11
  | _ => simp only [HttpThread.rank]; omega

end Afterveda.Onvif
