import FileGateway.Proofs.Address.Canonical
import FileGateway.Proofs.Block.Holders
import FileGateway.Proofs.Monitor.Survey

/-! The holders of a block are named after the hosts as they were listed, not after the addresses
under which these are contacted. -/
namespace FileGateway

/-- The name of the address under which a host is contacted. -/
def Settings.contactName? (settings : Settings) (host : String) : Option String :=
  (settings.resolve host).toOption.map Address.hostName

/-- The names of the contacted gateways that hold a block, each once, and the placeholder alone if
there are none. -/
def contactNames (settings : Settings) (answers : List (HostAnswer Bitmap)) (placeholder : String)
    (block : Nat) : List String :=
  match ((answers.filter (·.marks block)).filterMap
    (fun answer => settings.contactName? answer.host)).eraseDups with
  | [] => [placeholder]
  | names => names

theorem HostAnswer.hostName_eq_iff {α : Type} {settings : Settings} {host address : String}
    (resolved : settings.resolve host = .ok address) (value : Option α) :
    (HostAnswer.mk host value).hostName = Address.hostName address ↔ Address.KeepsName host := by
  rw [settings.hostName_of_resolve resolved]
  exact Address.hostName_eq_hostName_trim_iff

theorem contactName?_eq {settings : Settings} {answer : HostAnswer Bitmap}
    (valid : ∃ address, settings.resolve answer.host = .ok address)
    (keeps : Address.KeepsName answer.host) :
    settings.contactName? answer.host = some answer.hostName := by
  obtain ⟨address, resolved⟩ := valid
  have named := (HostAnswer.hostName_eq_iff resolved answer.value).mpr keeps
  rw [Settings.contactName?, resolved]
  exact congrArg some named.symm

theorem holderNames_eq_contactNames {settings : Settings} {answers : List (HostAnswer Bitmap)}
    {block : Nat}
    (valid : ∀ answer ∈ answers, ∃ address, settings.resolve answer.host = .ok address)
    (keeps : ∀ answer ∈ answers, answer.marks block = true → Address.KeepsName answer.host)
    (placeholder : String) :
    holderNames answers placeholder block = contactNames settings answers placeholder block := by
  have named : (answers.filter (·.marks block)).map HostAnswer.hostName =
      (answers.filter (·.marks block)).filterMap
        (fun answer => settings.contactName? answer.host) := by
    rw [← List.filterMap_eq_map]
    apply List.filterMap_congr
    intro answer marking
    obtain ⟨listed, marks⟩ := List.mem_filter.mp marking
    exact (contactName?_eq (valid answer listed) (keeps answer listed marks)).symm
  rw [holderNames, named]
  rfl

theorem nodup_contactNames (settings : Settings) (answers : List (HostAnswer Bitmap))
    (placeholder : String) (block : Nat) :
    (contactNames settings answers placeholder block).Nodup := by
  rw [contactNames]
  split
  · exact List.nodup_singleton placeholder
  · exact Holders.nodup_eraseDups _

namespace Monitor

/-- A listed host is named after the address under which it is contacted if and only if no blanks
stand before it, and none behind it unless they follow a port. So the names of a block's holders
are those of the contacted gateways, and one name stands for hosts of one address, as long as the
holders were listed in this way. The items of a list parsed at commas are. -/
theorem hostName_eq_contacted_iff {settings : Settings} {hosts : List String} {monitor : Monitor}
    (built : ofHosts settings hosts = .ok monitor) :
    (∀ host ∈ monitor.hosts, ∃ address, settings.resolve host = .ok address ∧
      ∀ (α : Type) (value : Option α),
        (HostAnswer.mk host value).hostName = Address.hostName address ↔
          Address.KeepsName host) ∧
    (∀ (answers : List (HostAnswer Bitmap)) (first last block : UInt64),
      (∀ answer ∈ answers, answer.host ∈ monitor.hosts) →
      (∀ answer ∈ answers, answer.marks block.toNat = true → Address.KeepsName answer.host) →
      first ≤ block → block ≤ last → ∀ placeholder,
        (Holders.ofAnswers answers first last).hostsOf block placeholder =
            contactNames settings answers placeholder block.toNat ∧
          (contactNames settings answers placeholder block.toNat).Nodup) ∧
    (∀ host ∈ monitor.hosts, ∀ other ∈ monitor.hosts,
      settings.resolve host = settings.resolve other →
      Address.KeepsName host → Address.KeepsName other →
        Address.hostName host = Address.hostName other) ∧
    ∀ list, ∀ host ∈ Address.splitList list, Address.KeepsName host := by
  have valid : ∀ host ∈ monitor.hosts, ∃ address, settings.resolve host = .ok address := by
    rw [eq_of_ofHosts built]
    exact (ofHosts_eq_ok built).2
  refine ⟨?contacted, ?holders, ?shared, fun list host => Address.keepsName_of_mem_splitList⟩
  case contacted =>
    intro host listed
    obtain ⟨address, resolved⟩ := valid host listed
    exact ⟨address, resolved, fun _ value => HostAnswer.hostName_eq_iff resolved value⟩
  case holders =>
    intro answers first last block listed keeps from_first to_last placeholder
    refine ⟨?_, nodup_contactNames ..⟩
    rw [Holders.hostsOf_ofAnswers answers from_first to_last]
    exact holderNames_eq_contactNames (fun answer given => valid _ (listed answer given)) keeps _
  case shared =>
    intro host listed other listed' same keeps keeps'
    obtain ⟨address, resolved⟩ := valid host listed
    have named := (HostAnswer.hostName_eq_iff resolved (none : Option Bitmap)).mpr keeps
    have named' := (HostAnswer.hostName_eq_iff (same.symm.trans resolved)
      (none : Option Bitmap)).mpr keeps'
    exact named.trans named'.symm

/-- Two spellings of one gateway, of which one has blanks after its port. -/
theorem hostName_eq_contacted_iff_spellings :
    (Holders.ofAnswers [⟨"gw1", some ⟨⟨#[1]⟩⟩⟩, ⟨"gw1:9090 ", some ⟨⟨#[1]⟩⟩⟩] 0 0).hostsOf 0
      "localhost" = ["gw1"] := by
  have built : ofHosts {} ["gw1", "gw1:9090 "] =
      .ok ⟨["gw1", "gw1:9090 "], .ofSettings {}⟩ := by rfl
  have named := (hostName_eq_contacted_iff built).2.1
    [⟨"gw1", some ⟨⟨#[1]⟩⟩⟩, ⟨"gw1:9090 ", some ⟨⟨#[1]⟩⟩⟩] 0 0 0 (by decide) (by decide)
    (by decide) (by decide) "localhost"
  exact named.1.trans (by decide)

/-- A blank before a host keeps it apart from the same gateway without it. -/
theorem hostName_ne_contacted_of_leading_blank :
    ∃ monitor, ofHosts {} [" gw1", "gw1"] = .ok monitor ∧
      Settings.resolve {} " gw1" = .ok "gw1:9090" ∧ Settings.resolve {} "gw1" = .ok "gw1:9090" ∧
      (HostAnswer.mk " gw1" (some (⟨⟨#[1]⟩⟩ : Bitmap))).hostName ≠ Address.hostName "gw1:9090" ∧
      (Holders.ofAnswers [⟨" gw1", some ⟨⟨#[1]⟩⟩⟩, ⟨"gw1", some ⟨⟨#[1]⟩⟩⟩] 0 0).hostsOf 0
        "localhost" = [" gw1", "gw1"] := by
  refine ⟨⟨[" gw1", "gw1"], .ofSettings {}⟩, by rfl, by rfl, by rfl, by decide, ?_⟩
  rw [Holders.hostsOf_ofAnswers _ (by decide) (by decide)]
  decide

end Monitor
end FileGateway
