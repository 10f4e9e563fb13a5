import FileGateway.Proofs.Block.Holders
import FileGateway.Proofs.Block.Placement
import FileGateway.Proofs.Hub.Schedule
import FileGateway.Proofs.Monitor.Survey

/-! The locations of a byte range, from the metadata of the file and the bitmaps of its hosts:
one for each block that the range touches, cut at the end of the file where its length is
known. -/
namespace FileGateway.Monitor

/-- What hosts give for the metadata of a path that are asked one after another, up to the first
that gives any. -/
def askStats (now : Nat) (path : String) :
    StatCache → Hub → List String → List (Except Failure FileStat)
  | _, _, [] => []
  | stats, hub, host :: hosts =>
    match statAt stats hub now path host with
    | (.ok stat, _, _) => [.ok stat]
    | (.error failure, stats, hub) => .error failure :: askStats now path stats hub hosts

def statOutcomes (monitor : Monitor) (hub : Hub) (now : Nat) (path : String) :
    List (Except Failure FileStat) :=
  askStats now path monitor.stats hub monitor.hosts

/-- The length of a file by the first host that gives its metadata, if there is one. -/
def knownLength (monitor : Monitor) (hub : Hub) (now : Nat) (path : String) : Option UInt64 :=
  ((monitor.statOutcomes hub now path).findSome? Except.toOption).map FileStat.length

/-- What the hosts give for their bitmaps of a file, asked after its length. -/
def bitmapOutcomes (monitor : Monitor) (hub : Hub) (now : Nat) (path : String) :
    List (Except Failure (Option Bitmap)) :=
  (Hub.askEach now (.cachedBlocks path) (monitor.fileLength hub now path).2.2 monitor.hosts).1

def bitmapAnswers (monitor : Monitor) (hub : Hub) (now : Nat) (path : String) :
    List (HostAnswer Bitmap) :=
  List.zipWith HostAnswer.ofOutcome monitor.hosts (monitor.bitmapOutcomes hub now path)

/-- Where a range ends in a file whose length may be known. -/
def rangeEnd (start length : UInt64) (known : Option UInt64) : Nat :=
  min (min (start.toNat + length.toNat) (2 ^ 64 - 1)) (known.getD maxOffset).toNat

/-- A range before any host is asked for its blocks. -/
def outline (settings : Settings) (start length : UInt64) (known : Option UInt64) : Placement where
  holders := {}
  start
  stop := match known with
    | some fileLength => min (saturatingAdd start length) fileLength
    | none => saturatingAdd start length
  fileEnd := known.getD maxOffset
  blockSize := settings.blockSize
  placeholder := settings.localPlaceholder

/-- A range with the holders of its blocks. -/
def filled (placement : Placement) (answers : List (HostAnswer Bitmap)) : Placement :=
  if placement.isEmpty then placement
  else { placement with
    holders := Holders.ofAnswers answers placement.firstBlock placement.lastBlock }

theorem lengthAt_fst {now : Nat} {path : String} {stats : StatCache} {hub : Hub}
    {hosts : List String} (come : .error .cancelled ∉ askStats now path stats hub hosts) :
    (lengthAt now path stats hub hosts).1 =
      some (((askStats now path stats hub hosts).findSome? Except.toOption).map
        FileStat.length) := by
  induction hosts generalizing stats hub with
  | nil => rfl
  | cons host hosts ih =>
    rw [lengthAt]
    rw [askStats] at come ⊢
    cases asked : statAt stats hub now path host with
    | mk outcome next =>
      rw [asked] at come
      match outcome with
      | .ok stat => rfl
      | .error .cancelled => exact absurd List.mem_cons_self come
      | .error (.error cause) =>
        exact ih (fun later => come (List.mem_cons_of_mem _ later))

theorem fileLength_eq {monitor : Monitor} {hub : Hub} {now : Nat} {path : String}
    (come : .error .cancelled ∉ monitor.statOutcomes hub now path) :
    ∃ stats hub', monitor.fileLength hub now path =
      (some (monitor.knownLength hub now path), { monitor with stats }, hub') :=
  ⟨_, _, congrArg (fun known => (known, _)) (lengthAt_fst come)⟩

theorem toNat_stop_outline (settings : Settings) (start length : UInt64) (known : Option UInt64) :
    (outline settings start length known).stop.toNat = rangeEnd start length known := by
  cases known with
  | none =>
    simp only [outline, rangeEnd, Option.getD_none, toNat_saturatingAdd, toNat_maxOffset]
    omega
  | some fileLength =>
    simp only [outline, rangeEnd, Option.getD_some, toNat_min, toNat_saturatingAdd,
      toNat_maxOffset]

theorem inside_outline {settings : Settings} (positive : 0 < settings.blockSize.toNat)
    (start length : UInt64) (known : Option UInt64) :
    (outline settings start length known).Inside := by
  refine ⟨positive, ?_⟩
  rw [toNat_stop_outline]
  exact Nat.min_le_right _ _

/-- Only the holders are filled in. -/
theorem exists_filled_eq (placement : Placement) (answers : List (HostAnswer Bitmap)) :
    ∃ holders, filled placement answers = { placement with holders } := by
  rw [filled]
  split
  · exact ⟨placement.holders, rfl⟩
  · exact ⟨_, rfl⟩

theorem inside_filled {placement : Placement} (inside : placement.Inside)
    (answers : List (HostAnswer Bitmap)) : (filled placement answers).Inside := by
  obtain ⟨holders, same⟩ := exists_filled_eq placement answers
  rw [same]
  exact ⟨inside.positive, inside.within⟩

theorem place_fst {monitor : Monitor} {hub : Hub} {now : Nat} {path : String}
    {start length : UInt64} {placement : Placement}
    (outlined : placement =
      outline hub.pool.settings start length (monitor.knownLength hub now path))
    (statsCome : .error .cancelled ∉ monitor.statOutcomes hub now path)
    (bitmapsCome : placement.isEmpty = false →
      .error .cancelled ∉ monitor.bitmapOutcomes hub now path) :
    (monitor.place hub now path start length).1 =
      some (filled placement (monitor.bitmapAnswers hub now path)) := by
  obtain ⟨stats, hub', measured⟩ := fileLength_eq statsCome
  subst outlined
  rw [filled, place]
  simp only [measured]
  by_cases nothing :
      (outline hub.pool.settings start length (monitor.knownLength hub now path)).isEmpty = true
  · rw [if_pos nothing]
    exact congrArg Prod.fst (if_pos nothing)
  · have come := bitmapsCome (Bool.eq_false_iff.mpr nothing)
    rw [if_neg nothing, bitmapAnswers]
    rw [bitmapOutcomes, measured] at come ⊢
    have surveyed : Monitor.survey { monitor with stats } hub' now (.cachedBlocks path) = _ :=
      survey_eq_askEach come
    refine (congrArg Prod.fst (if_neg nothing)).trans ?_
    rw [surveyed]
    rfl

/-- What a range comes to by the length of its file, which may be unknown, and the answers of the
hosts that were asked for their bitmaps. -/
def placed (settings : Settings) (start length : UInt64) (known : Option UInt64)
    (answers : List (HostAnswer Bitmap)) : Placement :=
  filled (outline settings start length known) answers

theorem place_fst_of_come {monitor : Monitor} {hub : Hub} {now : Nat} {path : String}
    {start length : UInt64} (statsCome : .error .cancelled ∉ monitor.statOutcomes hub now path)
    (bitmapsCome : start.toNat < rangeEnd start length (monitor.knownLength hub now path) →
      .error .cancelled ∉ monitor.bitmapOutcomes hub now path) :
    (monitor.place hub now path start length).1 =
      some (placed hub.pool.settings start length (monitor.knownLength hub now path)
        (monitor.bitmapAnswers hub now path)) := by
  refine place_fst rfl statsCome ?_
  intro something
  have nonempty := mt Placement.isEmpty_iff.mpr (Bool.eq_false_iff.mp something)
  rw [toNat_stop_outline, Nat.not_le] at nonempty
  exact bitmapsCome nonempty

theorem blockLocations_fst {monitor : Monitor} {hub : Hub} {now : Nat} {path : String}
    {start length : UInt64} {placement : Placement}
    (given : (monitor.place hub now path start length).1 = some placement) (memory : Nat) :
    (monitor.blockLocations hub memory now path start length).1 =
      (placement.collect memory).mapError .crashed := by
  rw [blockLocations]
  split
  · rename_i absent
    rw [absent] at given
    contradiction
  · rename_i present
    rw [present] at given
    cases given
    rfl

theorem locations_filled_of_empty {placement : Placement} (nothing : placement.isEmpty = true)
    (answers : List (HostAnswer Bitmap)) : (filled placement answers).locations = [] := by
  rw [filled, if_pos nothing, Placement.locations_of_isEmpty nothing]

theorem hostsOf_ofAnswers_of_touched {placement : Placement} (inside : placement.Inside)
    (nonempty : placement.start.toNat < placement.stop.toNat) (answers : List (HostAnswer Bitmap))
    {block : Nat} (after : placement.start.toNat / placement.blockSize.toNat ≤ block)
    (before : block ≤ (placement.stop.toNat - 1) / placement.blockSize.toNat)
    (placeholder : String) :
    (Holders.ofAnswers answers placement.firstBlock placement.lastBlock).hostsOf
        (UInt64.ofNat block) placeholder = holderNames answers placeholder block := by
  rw [← inside.toNat_firstBlock] at after
  rw [← inside.toNat_lastBlock nonempty] at before
  have word : (UInt64.ofNat block).toNat = block :=
    UInt64.toNat_ofNat_of_lt' (Nat.lt_of_le_of_lt before placement.lastBlock.toNat_lt)
  rw [← word] at after before
  have held := Holders.hostsOf_ofAnswers answers (UInt64.le_iff_toNat_le.mpr after)
    (UInt64.le_iff_toNat_le.mpr before) placeholder
  rw [held, word]

/-- The locations of a range that is not empty, in natural numbers. -/
theorem locations_filled {placement : Placement} (inside : placement.Inside)
    (nonempty : placement.start.toNat < placement.stop.toNat)
    (answers : List (HostAnswer Bitmap)) :
    (filled placement answers).locations.map (fun location =>
        (location.offset.toNat, location.length.toNat, location.hosts)) =
      (List.range' (placement.start.toNat / placement.blockSize.toNat)
        ((placement.stop.toNat - 1) / placement.blockSize.toNat + 1
          - placement.start.toNat / placement.blockSize.toNat)).map (fun block =>
        (block * placement.blockSize.toNat,
          min ((block + 1) * placement.blockSize.toNat) placement.fileEnd.toNat
            - block * placement.blockSize.toNat,
          holderNames answers placement.placeholder block)) := by
  have something : ¬ placement.isEmpty = true :=
    mt Placement.isEmpty_iff.mp (Nat.not_le.mpr nonempty)
  have located := (inside_filled inside answers).locations_eq
  rw [Placement.spanned] at located
  simp only [filled, if_neg something, if_neg (Nat.not_le.mpr nonempty)] at located ⊢
  rw [located]
  refine List.map_congr_left ?_
  intro block touched
  obtain ⟨after, before⟩ := List.mem_range'_1.mp touched
  rw [hostsOf_ofAnswers_of_touched inside nonempty answers after (by omega)]

/-- The locations of a range are those of the blocks that it touches, in increasing order, each with
its extent and its holders. -/
structure PlacedExactly (settings : Settings) (start length : UInt64) (known : Option UInt64)
    (answers : List (HostAnswer Bitmap)) : Prop where
  /-- No word operation wraps. -/
  unwrapped : (placed settings start length known answers).locations? =
    some (placed settings start length known answers).locations
  nothing : rangeEnd start length known ≤ start.toNat →
    (placed settings start length known answers).locations = []
  located :
    let size := settings.blockSize.toNat
    let stop := rangeEnd start length known
    start.toNat < stop →
      (placed settings start length known answers).locations.map (fun location =>
          (location.offset.toNat, location.length.toNat, location.hosts)) =
        (List.range' (start.toNat / size)
          ((stop - 1) / size + 1 - start.toNat / size)).map (fun block =>
            (block * size, min ((block + 1) * size) (known.getD maxOffset).toNat - block * size,
              holderNames answers settings.localPlaceholder block))
  /-- They come back in a list if there is room for it. -/
  collected : ∀ memory,
    let octets := Placement.spanned settings.blockSize.toNat start.toNat
      (rangeEnd start length known) * Placement.locationSize
    (placed settings start length known answers).collect memory =
      if Placement.maxListSize < octets then .error .capacityOverflow
      else if memory < octets then .error (.outOfMemory octets)
      else .ok (placed settings start length known answers).locations

theorem placedExactly {settings : Settings} (positive : 0 < settings.blockSize.toNat)
    (start length : UInt64) (known : Option UInt64) (answers : List (HostAnswer Bitmap)) :
    PlacedExactly settings start length known answers := by
  have inside := inside_outline positive start length known
  have stops := toNat_stop_outline settings start length known
  refine ⟨(inside_filled inside answers).locations?_eq, ?_, ?_, ?_⟩
  · intro nothing
    rw [← stops] at nothing
    exact locations_filled_of_empty (Placement.isEmpty_iff.mpr nothing) answers
  · intro size stop nonempty
    have located := locations_filled inside (stops ▸ nonempty) answers
    rw [stops] at located
    exact located
  · intro memory octets
    have collected := (inside_filled inside answers).collect_eq memory
    obtain ⟨holders, same⟩ := exists_filled_eq (outline settings start length known) answers
    rw [same] at collected
    simp only [stops] at collected
    rw [placed, same]
    exact collected

/-- If no call is given up, a range of a file is answered by the blocks that it touches in
increasing order, each with its extent and its holders. The placement is what is worked out
from the answers of the hosts, no word operation on the way to its locations wraps, and they come
back in a list if there is room for it. The same goes for the answers of any fan-out to the hosts
in which every task has finished, whatever length was found before. -/
theorem blockLocations_exact {monitor fresh : Monitor} {hub : Hub}
    (built : ofHosts hub.pool.settings monitor.hosts = .ok fresh) {now : Nat} {path : String}
    (start length : UInt64)
    (statsCome : .error .cancelled ∉ monitor.statOutcomes hub now path)
    (bitmapsCome : start.toNat < rangeEnd start length (monitor.knownLength hub now path) →
      .error .cancelled ∉ monitor.bitmapOutcomes hub now path) :
    let settings := hub.pool.settings
    let known := monitor.knownLength hub now path
    let answers := monitor.bitmapAnswers hub now path
    (monitor.place hub now path start length).1 =
        some (placed settings start length known answers) ∧
      (∀ memory, (monitor.blockLocations hub memory now path start length).1 =
        ((placed settings start length known answers).collect memory).mapError .crashed) ∧
      PlacedExactly settings start length known answers ∧
      ∀ known' hub' now' moves state,
        (FanOut.State.start hub' now' monitor.hosts).play (.cachedBlocks path) moves =
            some state →
          state.isDone = true →
            state.answers.map HostAnswer.host = monitor.hosts ∧
              PlacedExactly settings start length known' state.answers := by
  intro settings known answers
  have positive := Block.toNat_pos_of_ne_zero (ofHosts_eq_ok built).1
  have given := place_fst_of_come statsCome bitmapsCome
  refine ⟨given, ?_, placedExactly positive start length known answers, ?_⟩
  · intro memory
    exact blockLocations_fst given memory
  · intro known' hub' now' moves state played _
    refine ⟨?_, placedExactly positive start length known' state.answers⟩
    rw [FanOut.State.map_host_answers, FanOut.State.map_host_play played, FanOut.State.start,
      List.map_map]
    exact List.map_id monitor.hosts

/-- A hub with a route to one host, which holds the first of two blocks. -/
def oneHolder : Hub where
  pool := .ofSettings { blockSize := 4 }
  network.gateways := [("b:2", ⟨[.send ⟨#[0, 0, 0, 14, 0, 0, 0, 0, 0, 0, 0, 6, 0, 0, 0, 1,
    0, 0, 0, 2, 1, 0]⟩], true⟩)]

/-- A monitor of that host and of another, which knows that the file has six bytes. -/
def sixBytes : Monitor where
  hosts := ["a:1", "b:2"]
  stats.stats := ⟨none, none, [⟨"/f", ⟨0, 0, 0, 0, 0, 0, 6, 0, 0, 0, 0, 0⟩, 0⟩]⟩

theorem blockLocations_exact_one_holder :
    ∃ locations, (sixBytes.blockLocations oneHolder 80 0 "/f" 3 10).1 = .ok locations ∧
      locations.map (fun location =>
        (location.offset.toNat, location.length.toNat, location.hosts)) =
          [(0, 4, ["b"]), (4, 2, ["localhost"])] := by
  have built : ofHosts oneHolder.pool.settings sixBytes.hosts =
      .ok ⟨sixBytes.hosts, .ofSettings oneHolder.pool.settings⟩ := rfl
  have stats : sixBytes.statOutcomes oneHolder 0 "/f" =
      [.error (.error (.connect "a:1" .refused)), .ok ⟨0, 0, 0, 0, 0, 0, 6, 0, 0, 0, 0, 0⟩] := rfl
  have bitmaps : sixBytes.bitmapOutcomes oneHolder 0 "/f" =
      [.error (.error (.connect "a:1" .refused)), .ok (some ⟨⟨#[1, 0]⟩⟩)] := rfl
  have statsCome : .error .cancelled ∉ sixBytes.statOutcomes oneHolder 0 "/f" := by
    simp [stats]
  have bitmapsCome : .error .cancelled ∉ sixBytes.bitmapOutcomes oneHolder 0 "/f" := by
    simp [bitmaps]
  obtain ⟨-, given, ⟨-, -, located, collected⟩, -⟩ :=
    blockLocations_exact built 3 10 statsCome (fun _ => bitmapsCome)
  refine ⟨_, ?_, located (by decide)⟩
  rw [given, collected]
  rfl

end FileGateway.Monitor
