import EmulatorHost.Files

/-!
# What is written is read back

A file that has been written is read back with its content, by the same path. The walk along the
path comes to the same place as before, because it only looks at directories on its way and the one
entry that has changed is none.
-/

namespace EmulatorHost.Files

variable {files written : Files} {path : String} {place target : Place} {node : Node}

theorem node?_put_self (hplace : place ≠ []) : (files.put place node).node? place = some node := by
  have hnot : place.isEmpty = false := by
    cases place with
    | nil =>
        exact absurd rfl hplace
    | cons name rest =>
        rfl
  simp [node?, put, hnot]

theorem node?_put_of_ne (hother : place ≠ target) :
    (files.put target node).node? place = files.node? place := by
  have hhead : (target == place) = false := by
    simpa using fun h : target = place => hother h.symm
  have htail : (files.entries.filter fun entry => entry.1 != target).find?
      (fun entry => entry.1 == place) = files.entries.find? fun entry => entry.1 == place := by
    rw [List.find?_filter]
    congr 1
    funext entry
    by_cases hhere : entry.1 = place
    · simp [hhere, hother]
    · simp [hhere]
  simp only [node?, put, List.find?_cons, hhead, htail]

/-- A step of a walk that succeeds is taken in a directory, and nothing else decides where it
leads. -/
theorem step_of_walk {step : List Char} {rest : List (List Char)}
    (hwalk : files.walk place (step :: rest) = .ok target) :
    ∃ bits next, files.node? place = some (.directory bits) ∧ files.walk next rest = .ok target ∧
      ∀ other : Files, other.node? place = some (.directory bits) →
        other.walk place (step :: rest) = other.walk next rest := by
  cases hfound : files.node? place with
  | none =>
      simp [walk, hfound] at hwalk
  | some found =>
      cases found with
      | file content bits | socket =>
          simp [walk, hfound] at hwalk
      | directory bits =>
          cases hsearch : canSearch bits with
          | false =>
              simp [walk, hfound, hsearch] at hwalk
          | true =>
              have hleads {next : Place} (hnext : ∀ other : Files,
                  other.node? place = some (.directory bits) →
                    other.walk place (step :: rest) = other.walk next rest) :
                  files.walk next rest = .ok target :=
                (hnext files hfound).symm.trans hwalk
              by_cases hdot : step = ['.']
              · have hnext (other : Files) (hother : other.node? place = some (.directory bits)) :
                    other.walk place (step :: rest) = other.walk place rest := by
                  simp [walk, hother, hsearch, hdot]
                exact ⟨bits, place, rfl, hleads hnext, hnext⟩
              · by_cases hup : step = ['.', '.']
                · have hnext (other : Files) (hother : other.node? place = some (.directory bits)) :
                      other.walk place (step :: rest) = other.walk place.dropLast rest := by
                    simp [walk, hother, hsearch, hup]
                  exact ⟨bits, place.dropLast, rfl, hleads hnext, hnext⟩
                · by_cases hlong : maxNameLength < (String.ofList step).utf8ByteSize
                  · simp [walk, hfound, hsearch, hdot, hup, hlong] at hwalk
                  · have hnext (other : Files)
                        (hother : other.node? place = some (.directory bits)) :
                        other.walk place (step :: rest) = other.walk (place ++ [step]) rest := by
                      simp [walk, hother, hsearch, hdot, hup, hlong]
                    exact ⟨bits, place ++ [step], rfl, hleads hnext, hnext⟩

/-- A walk to what is no directory does not pass it on its way. -/
theorem walk_put (hnot : ∀ bits, files.node? target ≠ some (.directory bits))
    {steps : List (List Char)} (hwalk : files.walk place steps = .ok target) (node : Node) :
    (files.put target node).walk place steps = .ok target := by
  induction steps generalizing place with
  | nil =>
      exact hwalk
  | cons step rest ih =>
      rcases step_of_walk hwalk with ⟨bits, next, hfound, hlater, hnext⟩
      have hother : place ≠ target := by
        rintro rfl
        exact hnot bits hfound
      have hkept : (files.put target node).node? place = some (.directory bits) := by
        rw [node?_put_of_ne hother]
        exact hfound
      rw [hnext _ hkept]
      exact ih hlater

theorem reach_put {found : Option Node} (hreach : files.reach path = .ok (place, found))
    (hnot : ∀ bits, found ≠ some (.directory bits)) (node : Node) :
    (files.put place node).reach path = .ok (place, some node) := by
  unfold reach at hreach ⊢
  dsimp only at hreach ⊢
  -- The path itself is in order, since the first walk was tried.
  by_cases hempty : path.toList.isEmpty = true
  · rw [if_pos hempty] at hreach
    cases hreach
  · by_cases hzero : path.toList.contains '\x00' = true
    · rw [if_neg hempty, if_pos hzero] at hreach
      cases hreach
    · by_cases hlength : maxPathLength < path.utf8ByteSize
      · rw [if_neg hempty, if_neg hzero, if_pos hlength] at hreach
        cases hreach
      · rw [if_neg hempty, if_neg hzero, if_neg hlength] at hreach ⊢
        split at hreach
        · cases hreach
        · rename_i final hwalk
          cases hreach
          have hplace : place ≠ [] := by
            rintro rfl
            exact hnot newDirectoryMode rfl
          have hsame := walk_put hnot hwalk node
          have hworking : (files.put place node).working = files.working := rfl
          rw [hworking, hsame]
          dsimp only
          rw [node?_put_self hplace]

/-- A file that is put where a path leads is found there by the same path. -/
theorem locate_put {found : Option Node} (hreach : files.reach path = .ok (place, found))
    (hname : endsInSeparator path = false) (hnot : ∀ bits, found ≠ some (.directory bits))
    (content : Bytes) (mode : Nat) :
    (files.put place (.file content mode)).locate path =
      .ok (place, some (.file content mode)) := by
  have hagain := reach_put hreach hnot (.file content mode)
  simp [locate, hagain, hname]

/-- A path that is found to lead to a file reaches it, and does not end in a separator. -/
theorem reach_of_locate {content : Bytes} {mode : Nat}
    (hlocate : files.locate path = .ok (place, some (.file content mode))) :
    files.reach path = .ok (place, some (.file content mode)) ∧ endsInSeparator path = false := by
  unfold locate at hlocate
  split at hlocate
  · cases hlocate
  · cases hlocate
  · cases hlocate
  · rename_i reached node hnot hreach
    split at hlocate
    · cases hlocate
    · rename_i hseparator
      cases hlocate
      exact ⟨hreach, Bool.eq_false_iff.mpr hseparator⟩

/-- A write that succeeds puts a file where the path leads, and there was no directory there. -/
theorem put_of_write {content : Bytes} {mode : Nat}
    (hwrite : files.write path content mode = .ok written) :
    ∃ place found bits, files.reach path = .ok (place, found) ∧ endsInSeparator path = false ∧
      (∀ bits, found ≠ some (.directory bits)) ∧
      written = files.put place (.file content bits) := by
  unfold write at hwrite
  cases hreach : files.reach path with
  | error cause =>
      simp [hreach] at hwrite
  | ok reached =>
      rcases reached with ⟨place, found⟩
      rw [hreach] at hwrite
      dsimp only at hwrite
      split at hwrite
      · cases hwrite
      · rename_i hseparator
        have hfile : endsInSeparator path = false := Bool.eq_false_iff.mpr hseparator
        cases found with
        | none =>
            simp only [create] at hwrite
            split at hwrite
            · cases hwrite
              exact ⟨place, none, mode, rfl, hfile, nofun, rfl⟩
            · cases hwrite
        | some node =>
            cases node with
            | file old bits =>
                cases hwrite
                exact ⟨place, some (.file old bits), bits, rfl, hfile, nofun, rfl⟩
            | directory bits | socket =>
                cases hwrite

theorem read_of_write {content : Bytes} {mode : Nat}
    (hwrite : files.write path content mode = .ok written) : written.read path = .ok content := by
  rcases put_of_write hwrite with ⟨place, found, bits, hreach, hfile, hnot, rfl⟩
  have hlocate := locate_put hreach hfile hnot content bits
  simp [read, hlocate]

/-- Whether a path can be written does not depend on what is written. -/
theorem exists_write {content : Bytes} {mode : Nat}
    (hwrite : files.write path content mode = .ok written) (other : Bytes) :
    ∃ rewritten, files.write path other mode = .ok rewritten := by
  unfold write at hwrite ⊢
  split at hwrite
  · cases hwrite
  · split at hwrite
    · cases hwrite
    · rename_i hseparator
      simp only [hseparator, if_false, Bool.false_eq_true]
      split at hwrite
      · simp only [create] at hwrite ⊢
        split at hwrite
        · rename_i hallowed
          exact ⟨_, if_pos hallowed⟩
        · cases hwrite
      · exact ⟨_, rfl⟩
      · cases hwrite
      · cases hwrite

end EmulatorHost.Files
