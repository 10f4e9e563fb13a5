import FileGateway.Proofs.Hub.Settle
import FileGateway.Proofs.Monitor.Survey

/-! While hosts are served whose gateways differ, the pool gains no address but theirs, so that a
pool with places for all of them evicts nobody. -/
namespace FileGateway

/-- The gateway of a host, if the host has an address. -/
def gatewayOf (settings : Settings) (host : String) : Option String :=
  (settings.resolve host).toOption.map Network.gatewayName

namespace Hub

/-- A hub that can serve hosts side by side. -/
structure Serves (now : Nat) (hosts : List String) (start : Hub) : Prop where
  consistent : start.Consistent now
  resolved : ∀ host ∈ hosts, ∃ address, start.pool.settings.resolve host = .ok address
  apart : (hosts.map (gatewayOf start.pool.settings)).Nodup
  roomy : ∀ capacity, start.pool.clients.capacity = some capacity →
    start.pool.clients.entries.length + hosts.length ≤ capacity

/-- A hub that comes of a start by serving some of the hosts. -/
structure Within (now : Nat) (hosts : List String) (start hub : Hub) : Prop where
  consistent : hub.Consistent now
  settings : hub.pool.settings = start.pool.settings
  capacity : hub.pool.clients.capacity = start.pool.clients.capacity
  past : start.network.clients.size ≤ hub.network.clients.size
  keys : ∀ entry ∈ hub.pool.clients.entries,
    entry.key ∈ start.pool.clients.entries.map ExpiringCache.Entry.key ∨
      ∃ host ∈ hosts, start.pool.settings.resolve host = .ok entry.key
  holding : ∀ address, (∀ host ∈ hosts, start.pool.settings.resolve host ≠ .ok address) →
    hub.holding start.network.clients.size address =
      start.holding start.network.clients.size address

variable {now : Nat} {hosts : List String} {host other address place : String}
  {start hub next : Hub}

theorem Serves.within (serves : start.Serves now hosts) : Within now hosts start start where
  consistent := serves.consistent
  settings := rfl
  capacity := rfl
  past := Nat.le_refl _
  keys _ stored := .inl (List.mem_map_of_mem stored)
  holding _ _ := rfl

theorem Within.hasRoom (within : Within now hosts start hub) (serves : start.Serves now hosts)
    (listed : host ∈ hosts) (resolved : start.pool.settings.resolve host = .ok address) :
    hub.pool.clients.HasRoom address := by
  by_cases stored : ∃ entry ∈ hub.pool.clients.entries, entry.key = address
  · exact .inl stored
  refine .inr ?_
  intro capacity limit
  rw [within.capacity] at limit
  -- the keys with the address beside them are keys of the start or addresses of the hosts
  have distinct : (address :: hub.pool.clients.entries.map ExpiringCache.Entry.key).Nodup := by
    refine List.nodup_cons.mpr ⟨?_, within.consistent.pool.distinct⟩
    intro member
    obtain ⟨entry, present, same⟩ := List.mem_map.mp member
    exact stored ⟨entry, present, same⟩
  have among : address :: hub.pool.clients.entries.map ExpiringCache.Entry.key ⊆
      start.pool.clients.entries.map ExpiringCache.Entry.key ++
        hosts.filterMap (fun host => (start.pool.settings.resolve host).toOption) := by
    intro key member
    rw [List.mem_append, List.mem_filterMap]
    rcases List.mem_cons.mp member with rfl | present
    · exact .inr ⟨host, listed, by rw [resolved]; rfl⟩
    · obtain ⟨entry, held, rfl⟩ := List.mem_map.mp present
      refine (within.keys entry held).imp_right ?_
      rintro ⟨owner, listed, owned⟩
      exact ⟨owner, listed, by rw [owned]; rfl⟩
  have fits := (List.subperm_of_subset distinct among).length_le
  have few := List.length_filterMap_le
    (fun host => (start.pool.settings.resolve host).toOption) hosts
  have limited := serves.roomy capacity limit
  simp only [List.length_cons, List.length_map, List.length_append] at fits
  omega

theorem Within.confined (within : Within now hosts start hub) (listed : host ∈ hosts)
    (resolved : start.pool.settings.resolve host = .ok address)
    (confined : hub.Confined start.network.clients.size address next)
    (consistent : next.Consistent now)
    (past : start.network.clients.size ≤ next.network.clients.size) :
    Within now hosts start next where
  consistent := consistent
  settings := confined.settings.trans within.settings
  capacity := confined.capacity.trans within.capacity
  past := past
  keys := by
    intro entry stored
    rcases confined.keys entry stored with rfl | former
    · exact .inr ⟨host, listed, resolved⟩
    · exact within.keys entry former
  holding := by
    intro other absent
    have distinct : other ≠ address := by
      rintro rfl
      exact absent host listed resolved
    exact (confined.holding other distinct).trans (within.holding other absent)

theorem gatewayName_ne {settings : Settings} (resolved : settings.resolve host = .ok address)
    (resolved' : settings.resolve other = .ok place)
    (apart : gatewayOf settings host ≠ gatewayOf settings other) :
    Network.gatewayName address ≠ Network.gatewayName place := by
  intro same
  apply apart
  simp only [gatewayOf, resolved, resolved', Except.toOption, Option.map_some, same]

theorem Serves.gatewayName_ne (serves : start.Serves now hosts) {index index' : Nat}
    (here : hosts[index]? = some host) (there : hosts[index']? = some other)
    (distinct : index ≠ index') (resolved : start.pool.settings.resolve host = .ok address)
    (resolved' : start.pool.settings.resolve other = .ok place) :
    Network.gatewayName address ≠ Network.gatewayName place := by
  refine Hub.gatewayName_ne resolved resolved' ?_
  intro same
  apply distinct
  obtain ⟨bound, _⟩ := List.getElem?_eq_some_iff.mp here
  refine (List.getElem?_inj (by rwa [List.length_map]) serves.apart).mp ?_
  simp only [List.getElem?_map, here, there, Option.map_some, same]

end Hub

namespace FanOut
variable {α : Type} {question : Question α} {now : Nat} {hosts : List String}
  {host address : String} {start hub : Hub} {stage : Stage α}

theorem ready_of_within (within : Hub.Within now hosts start hub) (serves : start.Serves now hosts)
    (listed : host ∈ hosts) (resolved : start.pool.settings.resolve host = .ok address)
    (fits : stage.Fits hub address) :
    Ready now start.network.clients.size host address stage hub where
  consistent := within.consistent
  resolved := within.settings ▸ resolved
  past := within.past
  room := within.hasRoom serves listed resolved
  fits := fits

/-- Asking a host, from a hub that looks like the start from its address, gives what the start
gives and leaves behind what the start does. -/
theorem ask_within (within : Hub.Within now hosts start hub) (serves : start.Serves now hosts)
    (listed : host ∈ hosts) (resolved : start.pool.settings.resolve host = .ok address)
    (same : hub.view start.network.clients.size address =
      start.view start.network.clients.size address)
    (come : (start.ask now question.query host).1 ≠ .error .cancelled) :
    (hub.ask now question.query host).1 = (start.ask now question.query host).1 ∧
      Hub.Within now hosts start (hub.ask now question.query host).2 ∧
      hub.Confined start.network.clients.size address (hub.ask now question.query host).2 ∧
      (hub.ask now question.query host).2.holding start.network.clients.size address =
        (start.ask now question.query host).2.holding start.network.clients.size address := by
  have ready : Ready now start.network.clients.size host address (.waiting : Stage α) hub :=
    ready_of_within within serves listed resolved trivial
  have fresh : Ready now start.network.clients.size host address (.waiting : Stage α) start :=
    ready_of_within serves.within serves listed resolved trivial
  have moments : Alike start.network.clients.size address ((.waiting : Stage α), hub)
      (.waiting, start) := ⟨rfl, same⟩
  have alike := moments.settle question ready fresh
  obtain ⟨settled, confined⟩ := ready.settle question
  obtain ⟨gives, leaves⟩ := settle_waiting question now ready.resolved
  obtain ⟨gives', leaves'⟩ := settle_waiting question now resolved
  have outcome : (hub.ask now question.query host).1 = (start.ask now question.query host).1 :=
    gives.symm.trans (alike.gives.trans gives')
  have held : (settle question now host .waiting hub).2.holding start.network.clients.size address =
      (settle question now host .waiting start).2.holding start.network.clients.size address :=
    congrArg View.holding alike.view
  have come' : (hub.ask now question.query host).1 ≠ .error .cancelled := by
    rw [outcome]
    exact come
  rw [leaves come'] at settled confined held
  rw [leaves' come] at held
  have within' := within.confined listed resolved confined settled.consistent settled.past
  exact ⟨outcome, within', confined, held⟩

/-- What the pool holds in the end if hosts are asked and nothing else happens. -/
structure Served (question : Question α) (now : Nat) (hosts : List String) (start hub last : Hub) :
    Prop where
  asked : ∀ host ∈ hosts, ∀ address, start.pool.settings.resolve host = .ok address →
    last.holding start.network.clients.size address =
      (start.ask now question.query host).2.holding start.network.clients.size address
  others : ∀ address, (∀ host ∈ hosts, start.pool.settings.resolve host ≠ .ok address) →
    last.holding start.network.clients.size address =
      hub.holding start.network.clients.size address

/-- Hosts that are asked one after another give what each of them gives from the start. -/
theorem askEach_within {rest : List String} (within : Hub.Within now hosts start hub)
    (serves : start.Serves now hosts) (listed : rest ⊆ hosts)
    (apart : (rest.map (gatewayOf start.pool.settings)).Nodup)
    (same : ∀ host ∈ rest, ∀ address, start.pool.settings.resolve host = .ok address →
      hub.view start.network.clients.size address = start.view start.network.clients.size address)
    (come : ∀ host ∈ rest, (start.ask now question.query host).1 ≠ .error .cancelled) :
    (Hub.askEach now question.query hub rest).1 =
        rest.map (fun host => (start.ask now question.query host).1) ∧
      Served question now rest start hub (Hub.askEach now question.query hub rest).2 := by
  induction rest generalizing hub with
  | nil => exact ⟨rfl, nofun, fun _ _ => rfl⟩
  | cons host rest ih =>
    rw [List.map_cons, List.nodup_cons] at apart
    rw [List.forall_mem_cons] at same come
    rw [List.cons_subset] at listed
    obtain ⟨address, resolved⟩ := serves.resolved host listed.1
    obtain ⟨outcome, within', confined, held⟩ :=
      ask_within within serves listed.1 resolved (same.1 address resolved) come.1
    have unseen : ∀ other ∈ rest, ∀ place, start.pool.settings.resolve other = .ok place →
        Network.gatewayName place ≠ Network.gatewayName address := by
      intro other member place resolved'
      refine Hub.gatewayName_ne resolved' resolved ?_
      intro shared
      exact apart.1 (shared ▸ List.mem_map_of_mem member)
    have same' : ∀ other ∈ rest, ∀ place, start.pool.settings.resolve other = .ok place →
        (hub.ask now question.query host).2.view start.network.clients.size place =
          start.view start.network.clients.size place := by
      intro other member place resolved'
      rw [confined.view place (unseen other member place resolved')]
      exact same.2 other member place resolved'
    obtain ⟨outcomes, served⟩ := ih within' listed.2 apart.2 same' come.2
    rw [Hub.askEach_cons, List.map_cons, outcome, outcomes]
    refine ⟨rfl, ?_, ?_⟩
    · rw [List.forall_mem_cons]
      refine ⟨?_, served.asked⟩
      intro place resolved'
      cases resolved.symm.trans resolved'
      rw [← held]
      refine served.others address ?_
      intro other member shared
      exact unseen other member address shared rfl
    · intro place absent
      rw [List.forall_mem_cons] at absent
      have distinct : place ≠ address := fun here => absent.1 (here ▸ resolved)
      rw [served.others place absent.2, confined.holding place distinct]

end FanOut
end FileGateway
