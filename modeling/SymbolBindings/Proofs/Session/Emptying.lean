import SymbolBindings.Proofs.Session.Generating

/-! # Emptying

The output is created before the table is opened. A session over a table that is refused therefore
leaves an empty output, also where the output is the table itself, and touches no other file.
-/

namespace SymbolBindings

/-- Nothing is opened, or what is opened has no header to read its rows by. -/
def Generate.Refuses (opened : Except SystemFault Source) : Prop :=
  ∀ source, opened = .ok source → ∃ failure, Table.read source = .error failure

theorem Generate.refuses_error (fault : SystemFault) : Refuses (.error fault) := nofun

theorem Generate.refuses_nothing : Refuses (.ok (.ofOctets [])) := by
  rintro source ⟨⟩
  exact ⟨_, rfl⟩

theorem Generate.runAt_of_refuses {opened : Except SystemFault Source} (refuses : Refuses opened)
    (options : Options) (path : String) :
    (runAt options path opened .unbounded).result.isOk = false ∧
      (runAt options path opened .unbounded).sink.written = [] := by
  unfold runAt
  cases opened with
  | error fault => exact ⟨rfl, rfl⟩
  | ok source =>
      rcases refuses source rfl with ⟨failure, refused⟩
      rcases run_of_read_error refused options .unbounded with ⟨result, sink⟩
      simp only [result, sink]
      exact ⟨rfl, rfl⟩

namespace Machine

variable {machine created : Machine} {words : List String} {request : GenerateRequest}
  {settings : Settings} {destination : Destination} {path table : String}

/-- A table that is the output is empty when it is opened. -/
theorem openFile_of_not_separates (leads : machine.LeadsTo (some path) destination)
    (arrived : Arrived machine destination [] created)
    (together : ¬machine.Separates (some path) table) :
    created.files.openFile created.current table = .ok (.ofOctets []) := by
  unfold Separates at together
  push Not at together
  rcases together with ⟨_, place, ⟨⟩, leadsOutput, leadsTable⟩
  have files := arrived.files
  rw [arrived.current]
  cases leads with
  | file creatable regular =>
      rcases FileTree.placeOf_of_placeToCreate creatable with ⟨same, free, -⟩
      cases same.symm.trans leadsOutput
      rcases files.find_place with ⟨executable, found⟩
      rw [FileTree.openFile_eq, (files.sameDirectories free).placeOf_eq_ok_iff.mp leadsTable,
        Except.bind, found]
  | device creatable found =>
      rcases FileTree.placeOf_of_placeToCreate creatable with ⟨same, -⟩
      cases same.symm.trans leadsOutput
      rw [show created.files = machine.files from files, FileTree.openFile_eq, leadsTable,
        Except.bind, found]

/-- Once the output is created, the table is refused as before, or because it is the output. -/
theorem refuses_of_created (leads : machine.LeadsTo (some path) destination)
    (arrived : Arrived machine destination [] created)
    (refused : machine.Separates (some path) table →
      Generate.Refuses (machine.files.openFile machine.current table)) :
    Generate.Refuses (created.files.openFile created.current table) := by
  by_cases apart : machine.Separates (some path) table
  · rcases arrived.openFile leads apart with same | ⟨⟨fault, lost⟩, -⟩
    · rw [same]
      exact refused apart
    · rw [lost]
      exact Generate.refuses_error fault
  · rw [openFile_of_not_separates leads arrived apart]
    exact Generate.refuses_nothing

/-- Nothing arrives of a table that is refused. -/
theorem arrived_run_of_refused (asks : machine.Asks words request settings)
    (named : request.output = some path) (leads : machine.LeadsTo (some path) destination)
    (refused : machine.Separates (some path) request.table →
      Generate.Refuses (machine.files.openFile machine.current request.table)) :
    (machine.run words).1 = 1 ∧ Arrived machine destination [] (machine.run words).2 := by
  rcases arrived_run asks (named ▸ leads) with
    ⟨created, received, outcome, arrived, arrivedLater, same, told⟩
  have refuses := refuses_of_created leads arrived refused
  rcases Generate.runAt_of_refuses refuses (request.options settings.generate) request.table with
    ⟨failed, nothing⟩
  rw [same, nothing, if_pos destination.takes_nil, failed] at told
  rcases told with ⟨code, rfl⟩
  exact ⟨code, arrivedLater⟩

/-- Every file is still there and holds the same octets. -/
def KeepsFiles (before after : FileTree) : Prop :=
  ∀ place octets executable, before.find place = some (.file octets executable) →
    ∃ executable, after.find place = some (.file octets executable)

end Machine

end SymbolBindings
