import FileGateway.Proofs.ExpiringCache.Compaction
import FileGateway.Proofs.Hub.Consistent
import FileGateway.Proofs.Origin

/-! Every client that a hub gives for a host is accounted for: it has the address of the host and is
open, the hub connected it less than a lifetime ago, and nobody has asked to forget it since.
What a hub does with its pool never touches a client that is there. -/
namespace FileGateway

/-- Whether the pool is asked to forget the client of an address. -/
def Hub.Turn.Forgets (settings : Settings) (address : String) : Hub.Turn → Prop
  | .event .clear => True
  | .event (.invalidate host) => settings.resolve host = .ok address
  | .event (.client _) | .event .size | .event (.call ..) | .event (.close _) | .event (.advance _)
  | .gateways _ | .cut .. => False

/-- Whether an event is an operation of the pool, and not of one of its clients. -/
def Hub.Event.isOfPool : Hub.Event → Bool
  | .client _ | .invalidate _ | .clear | .size => true
  | .call .. | .close _ | .advance _ => false

/-- From one network to the next no client was closed, no request was sent and nothing was read:
there are only attempts to connect. -/
structure Network.Spares (earlier later : Network) : Prop where
  clients : ∀ id < earlier.clients.size, later.client id = earlier.client id
  gateways : later.gateways = earlier.gateways
  history : ∃ attempts : List String, later.history = earlier.history ++ attempts.map .attempt

namespace Network

theorem Spares.refl (network : Network) : network.Spares network :=
  ⟨fun _ _ => rfl, rfl, [], (List.append_nil _).symm⟩

theorem spares_connect (network : Network) (address : String) :
    network.Spares (network.connect address).2 := by
  refine ⟨fun id known => network.client_connect_of_lt address known,
    network.gateways_connect address, [gatewayName address], ?_⟩
  rw [connect]
  split <;> rfl

end Network

namespace Hub

/-- Asking for the client of a host connects a client that was not there before. -/
def Connects (state : Timed) (host : String) (id : ClientId) : Prop :=
  (state.hub.client state.now host).1 = .ok id ∧ state.hub.network.clients.size ≤ id

/-- A pool in order: one client for each address, and no more than there are places for. -/
structure InOrder (settings : Settings) (hub : Hub) : Prop where
  distinct : (hub.pool.clients.entries.map ExpiringCache.Entry.key).Nodup
  address : ∀ entry ∈ hub.pool.clients.entries,
    (hub.network.client entry.value).address = entry.key
  bounded : settings.instanceCache.size ≠ 0 →
    hub.pool.clients.entries.length ≤ settings.instanceCache.size

/-- What is known of a client that was given for a host at the end of some turns. The last of them
may have connected it. -/
structure Accounted (initial : Timed) (settings : Settings) (turns : List Turn) (host : String)
    (id : ClientId) : Prop where
  address : settings.resolve host = .ok ((play initial turns).hub.network.client id).address
  opened : ((play initial turns).hub.network.client id).closed = false
  origin : ∃ before connecting after, turns = before ++ .event (.client connecting) :: after ∧
    Connects (play initial before) connecting id ∧
    (settings.instanceCache.lifetime = 0 ∨
      (play initial turns).now - (play initial before).now < settings.instanceCache.lifetime) ∧
    ∀ turn ∈ after,
      ¬ turn.Forgets settings ((play initial turns).hub.network.client id).address

/-- What a pool is made with stays: its settings and the limits of its clients. -/
structure SameLimits (pool next : Pool) : Prop where
  settings : next.settings = pool.settings
  capacity : next.clients.capacity = pool.clients.capacity
  lifetime : next.clients.lifetime = pool.clients.lifetime

/-- What holds of a hub with given settings at any time. -/
structure Lawful (settings : Settings) (state : Timed) : Prop where
  consistent : state.hub.Consistent state.now
  limits : SameLimits (.ofSettings settings) state.hub.pool

variable {hub : Hub} {now : Nat} {host : String} {id : ClientId} {settings : Settings}
  {state : Timed}

theorem SameLimits.refl (pool : Pool) : SameLimits pool pool := ⟨rfl, rfl, rfl⟩

theorem SameLimits.trans {first second third : Pool} (before : SameLimits first second)
    (after : SameLimits second third) : SameLimits first third :=
  ⟨after.settings.trans before.settings, after.capacity.trans before.capacity,
    after.lifetime.trans before.lifetime⟩

theorem sameLimits_client (hub : Hub) (now : Nat) (host : String) :
    SameLimits hub.pool (hub.client now host).2.pool := by
  have given := hub.given_client now host
  generalize hub.client now host = result at given ⊢
  cases given with
  | unresolved error refused => exact .refl _
  | reused address id resolved usable => exact .refl _
  | failed address fault resolved absent unrouted => exact ⟨rfl, rfl, rfl⟩
  | connected address resolved absent routed =>
    have limits := (hub.pool.forget address).clients.insert_limits now address
      hub.network.clients.size
    exact ⟨rfl, limits.1, limits.2⟩

theorem sameLimits_invalidate (pool : Pool) (host : String) :
    SameLimits pool (pool.invalidate host) := by
  rw [Pool.invalidate]
  split <;> exact ⟨rfl, rfl, rfl⟩

theorem sameLimits_turn (state : Timed) (next : Turn) :
    SameLimits state.hub.pool (turn state next).hub.pool := by
  cases next with
  | event event =>
    cases event with
    | client host => exact sameLimits_client ..
    | invalidate host => exact sameLimits_invalidate ..
    | _ => exact ⟨rfl, rfl, rfl⟩
  | gateways gateways => exact .refl _
  | cut id request reply interruption => exact .refl _

theorem consistent_turn (consistent : state.hub.Consistent state.now) (next : Turn) :
    (turn state next).hub.Consistent (turn state next).now := by
  cases next with
  | event event => exact consistent_step consistent event
  | gateways gateways => exact consistent.rewire (Nat.le_refl _) (fun _ _ => rfl)
  | cut id request reply interruption =>
    exact consistent.replace id (Client.address_interrupt ..)

theorem lawful_turn (lawful : Lawful settings state) (next : Turn) :
    Lawful settings (turn state next) :=
  ⟨consistent_turn lawful.consistent next, lawful.limits.trans (sameLimits_turn state next)⟩

theorem lawful_play (lawful : Lawful settings state) (turns : List Turn) :
    Lawful settings (play state turns) := by
  induction turns generalizing state with
  | nil => exact lawful
  | cons next rest ih => exact ih (lawful_turn lawful next)

theorem Lawful.settings_eq (lawful : Lawful settings state) : state.hub.pool.settings = settings :=
  lawful.limits.settings

theorem Lawful.inOrder (lawful : Lawful settings state) : state.hub.InOrder settings where
  distinct := lawful.consistent.pool.distinct
  address := lawful.consistent.address
  bounded limited :=
    lawful.consistent.pool.bounded _ (lawful.limits.capacity.trans (if_neg limited))

/-- What asking for a client leaves in the pool was there, or is the client that was connected. -/
theorem mem_of_mem_client {entry : ExpiringCache.Entry String ClientId}
    (stored : entry ∈ (state.hub.client state.now host).2.pool.clients.entries) :
    entry ∈ state.hub.pool.clients.entries ∨
      Connects state host entry.value ∧ entry.inserted = state.now := by
  rw [Connects]
  have given := state.hub.given_client state.now host
  generalize state.hub.client state.now host = result at given stored ⊢
  cases given with
  | unresolved error refused => exact .inl stored
  | reused address id resolved usable => exact .inl stored
  | failed address fault resolved absent unrouted =>
    exact .inl (ExpiringCache.mem_erase.mp stored).1
  | connected address resolved absent routed =>
    rcases ExpiringCache.mem_of_mem_insert stored with ⟨former, _⟩ | rfl
    · exact .inl (ExpiringCache.mem_erase.mp former).1
    · exact .inr ⟨⟨rfl, Nat.le_refl _⟩, rfl⟩

/-- What forgetting a host leaves in the pool has another address. -/
theorem mem_of_mem_invalidate {pool : Pool} {entry : ExpiringCache.Entry String ClientId}
    (stored : entry ∈ (pool.invalidate host).clients.entries) :
    entry ∈ pool.clients.entries ∧ pool.settings.resolve host ≠ .ok entry.key := by
  rw [Pool.invalidate] at stored
  split at stored
  · rename_i error refused
    exact ⟨stored, by simp [refused]⟩
  · rename_i address resolved
    obtain ⟨former, other⟩ := ExpiringCache.mem_erase.mp stored
    refine ⟨former, ?_⟩
    rw [resolved, ne_eq, Except.ok.injEq]
    exact other.symm

/-- A client that is pooled after a turn was pooled before it and is not asked to be forgotten, or
the turn connected it. -/
theorem mem_of_mem_turn {next : Turn} {entry : ExpiringCache.Entry String ClientId}
    (stored : entry ∈ (turn state next).hub.pool.clients.entries) :
    entry ∈ state.hub.pool.clients.entries ∧
        ¬ next.Forgets state.hub.pool.settings entry.key ∨
      ∃ host, next = .event (.client host) ∧ Connects state host entry.value ∧
        entry.inserted = state.now := by
  cases next with
  | event event =>
    cases event with
    | client host =>
      exact (mem_of_mem_client stored).imp (fun former => ⟨former, id⟩)
        (fun connected => ⟨host, rfl, connected⟩)
    | invalidate host => exact .inl (mem_of_mem_invalidate stored)
    | clear => exact absurd stored List.not_mem_nil
    | size => exact .inl ⟨(ExpiringCache.mem_compact.mp stored).1, id⟩
    | call target request => exact .inl ⟨stored, id⟩
    | close target => exact .inl ⟨stored, id⟩
    | advance duration => exact .inl ⟨stored, id⟩
  | gateways gateways => exact .inl ⟨stored, id⟩
  | cut target request reply interruption => exact .inl ⟨stored, id⟩

/-- A client that is given for a host is in the pool afterwards. It is open, has the address of
the host, and has not expired unless it was connected just now. -/
theorem exists_entry_of_client (given : (hub.client now host).1 = .ok id) :
    ∃ address instant, hub.pool.settings.resolve host = .ok address ∧
      ⟨address, id, instant⟩ ∈ (hub.client now host).2.pool.clients.entries ∧
      ((hub.client now host).2.network.client id).closed = false ∧
      (instant = now ∨ hub.pool.clients.isStale now ⟨address, id, instant⟩ = false) := by
  have outcome := hub.given_client now host
  generalize hub.client now host = result at given outcome ⊢
  cases outcome with
  | unresolved error refused => contradiction
  | reused address reused resolved usable =>
    cases given
    obtain ⟨entry, found, rfl, fresh, opened⟩ := Pool.usable?_eq_some_iff.mp usable
    obtain ⟨stored, rfl⟩ := ExpiringCache.mem_of_find? found
    exact ⟨entry.key, entry.inserted, resolved, stored, opened, .inr fresh⟩
  | failed address fault resolved absent unrouted => contradiction
  | connected address resolved absent routed =>
    cases given
    refine ⟨address, now, resolved, ExpiringCache.mem_insert_self .., ?_, .inl rfl⟩
    exact congrArg Client.closed (Network.client_connect_self routed)

/-- No operation of the pool touches a client that is there. -/
theorem spares_step (state : Timed) {event : Event} (pooled : event.isOfPool = true) :
    state.hub.network.Spares (step state event).hub.network := by
  cases event with
  | client host =>
    rw [step]
    have given := state.hub.given_client state.now host
    generalize state.hub.client state.now host = result at given ⊢
    cases given with
    | unresolved error refused => exact .refl _
    | reused address id resolved usable => exact .refl _
    | failed address fault resolved absent unrouted => exact state.hub.network.spares_connect _
    | connected address resolved absent routed => exact state.hub.network.spares_connect _
  | invalidate host => exact .refl _
  | clear => exact .refl _
  | size => exact .refl _
  | call target request => contradiction
  | close target => contradiction
  | advance duration => contradiction

/-- What is pooled after turns that began with an empty pool was connected by one of them, at the
time that it is stored with, and nobody asked to forget it since. -/
theorem exists_connect_of_mem {initial : Timed} (lawful : Lawful settings initial)
    {turns : List Turn} {entry : ExpiringCache.Entry String ClientId}
    (absent : entry ∉ initial.hub.pool.clients.entries)
    (stored : entry ∈ (play initial turns).hub.pool.clients.entries) :
    ∃ before connecting after, turns = before ++ .event (.client connecting) :: after ∧
      Connects (play initial before) connecting entry.value ∧
      entry.inserted = (play initial before).now ∧
      ∀ turn ∈ after, ¬ turn.Forgets settings entry.key := by
  have origin : Originates turn
      (fun state next => ∃ host, next = .event (.client host) ∧ Connects state host entry.value ∧
        entry.inserted = state.now)
      (fun _ next => next.Forgets settings entry.key) initial turns := by
    refine originates_of_held (Lawful settings)
      (fun state => entry ∈ state.hub.pool.clients.entries)
      (fun _ next held => lawful_turn held next) ?_ lawful absent stored
    intro state next held present
    rw [← held.settings_eq]
    exact mem_of_mem_turn present
  obtain ⟨before, _, after, rfl, ⟨connecting, rfl, connects, instant⟩, untouched⟩ := origin
  rw [throughout_iff_forall] at untouched
  exact ⟨before, connecting, after, rfl, connects, instant, untouched⟩

theorem play_client (initial : Timed) (turns : List Turn) (host : String) :
    play initial (turns ++ [.event (.client host)]) =
      ⟨(play initial turns).now,
        ((play initial turns).hub.client (play initial turns).now host).2⟩ :=
  List.foldl_concat ..

theorem accounted_of_client {initial : Timed} (lawful : Lawful settings initial)
    (empty : initial.hub.pool.clients.entries = []) {turns : List Turn}
    (given : ((play initial turns).hub.client (play initial turns).now host).1 = .ok id) :
    Accounted initial settings (turns ++ [.event (.client host)]) host id := by
  have reached := lawful_play lawful turns
  have next := reached.consistent.client host
  have ends := play_client initial turns host
  obtain ⟨address, instant, resolved, stored, opened, fresh⟩ := exists_entry_of_client given
  rw [reached.settings_eq] at resolved
  have named := next.address _ stored
  have absent : (⟨address, id, instant⟩ : ExpiringCache.Entry String ClientId) ∉
      initial.hub.pool.clients.entries := by
    rw [empty]
    exact List.not_mem_nil
  have pooled : (⟨address, id, instant⟩ : ExpiringCache.Entry String ClientId) ∈
      (play initial (turns ++ [.event (.client host)])).hub.pool.clients.entries := by
    simpa only [ends] using stored
  obtain ⟨before, connecting, after, split, connects, inserted, untouched⟩ :=
    exists_connect_of_mem lawful absent pooled
  have young : settings.instanceCache.lifetime = 0 ∨
      (play initial turns).now - (play initial before).now < settings.instanceCache.lifetime := by
    rw [← inserted]
    rcases fresh with rfl | fresh
    · dsimp only
      omega
    · exact (ExpiringCache.isStale_ofLimits_iff reached.limits.lifetime).mp fresh
  refine ⟨?_, ?_, before, connecting, after, split, connects, ?_, ?_⟩
  · simpa only [ends, named] using resolved
  · simpa only [ends] using opened
  · simpa only [ends] using young
  · simpa only [ends, named] using untouched

/-- Whatever is done with a hub and its clients and whatever becomes of the gateways, the pool is
in order, every client that it gives is accounted for, and its operations touch no client. This
speaks of clients that somebody still holds: one that nobody holds once the pool has let go of it
goes unnoticed with its connection. -/
theorem play_accounts_for_clients (settings : Settings) (start : Nat) (network : Network)
    (turns : List Turn) :
    let initial : Timed := ⟨start, ⟨.ofSettings settings, network⟩⟩
    let reached := play initial turns
    reached.hub.InOrder settings ∧
    (∀ host id, (reached.hub.client reached.now host).1 = .ok id →
      Accounted initial settings (turns ++ [.event (.client host)]) host id) ∧
    ∀ event : Event, event.isOfPool = true →
      reached.hub.network.Spares (step reached event).hub.network := by
  intro initial reached
  have lawful : Lawful settings initial := ⟨consistent_ofSettings start settings network, .refl _⟩
  exact ⟨(lawful_play lawful turns).inOrder, fun _ _ given => accounted_of_client lawful rfl given,
    fun _ pooled => spares_step reached pooled⟩

/-- A client is given again for the address that its host stands for, before its time runs out. -/
theorem play_accounts_for_clients_reused :
    let settings : Settings := { instanceCache := ⟨2, 10⟩ }
    let gateways : List (String × Gateway) := [("gw:9090", { replies := [] })]
    let initial : Timed := ⟨0, ⟨.ofSettings settings, { gateways }⟩⟩
    Accounted initial settings
      [.event (.client "gw"), .event (.advance 9), .event (.client " gw:9090 ")] " gw:9090 " 0 :=
  (play_accounts_for_clients _ _ _ [.event (.client "gw"), .event (.advance 9)]).2.1 _ _ rfl

end Hub
end FileGateway
