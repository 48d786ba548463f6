import MatVerse.MarxivPreflight
import MatVerse.MarxivSandbox

/-! A promoted scientific object read back from its own document: everything survives
but an author whose name is shorter than two characters without its blanks. -/
namespace MatVerse.Marxiv

open Record

variable {v : Json} {o : MarxivScientificObject}

/-! ## Lists of texts -/

@[simp] theorem texts_strs (items : List String) : Record.texts (some (strs items)) = some items :=
  Record.texts_arr items

@[simp] theorem textsOrEmpty_strs (items : List String) : Record.textsOrEmpty (some (strs items)) = some items :=
  Record.texts_arr items

@[simp] theorem optFlag_toJson (flag : Option Bool) : Record.optFlag (some (flag.elim .null .bool)) = some flag := by
  cases flag <;> rfl

/-- What the validator leaves of a list of texts, it leaves again. -/
theorem normalizeStringList_normal {values cleaned : List String} (done : normalizeStringList values = some cleaned) :
    normalizeStringList cleaned = some cleaned := by
  simp only [normalizeStringList] at done ⊢
  split at done
  next distinct =>
    obtain rfl := Option.some.inj done
    have stripped : ∀ s ∈ (values.map Text.strip).filter (· != ""), Text.strip s = s := by
      intro s member
      obtain ⟨t, -, rfl⟩ := List.mem_map.mp (List.mem_of_mem_filter member)
      exact Text.strip_strip t
    have itself : ((values.map Text.strip).filter (· != "")).map Text.strip = (values.map Text.strip).filter
        (· != "") := by
      conv_rhs => rw [← List.map_id ((values.map Text.strip).filter (· != ""))]
      exact List.map_congr_left stripped
    rw [itself, List.filter_filter]
    simp only [Bool.and_self]
    exact if_pos distinct
  · cases done

theorem sized_ok {least : Nat} {most : Option Nat} {s t : String} (done : Record.sized least most s = some t) :
    t = s ∧ least ≤ s.length ∧ ∀ m ∈ most, s.length ≤ m := by
  unfold Record.sized at done
  split at done
  next within =>
    obtain rfl := Option.some.inj done
    exact ⟨rfl, within⟩
  · cases done

/-! ## Authors -/

/-- An author as the validator leaves it. -/
structure MarxivAuthor.Valid (a : MarxivAuthor) : Prop where
  name : Text.strip a.name = a.name ∧ a.name.length ≤ 256
  orcid : a.orcid.map Text.strip = a.orcid ∧ atMost 32 a.orcid = true
  affiliation : a.affiliation.map Text.strip = a.affiliation ∧ atMost 512 a.affiliation = true

theorem atMost_strip {most : Nat} {s : Option String} (within : atMost most s = true) :
    atMost most (s.map Text.strip) = true := by
  cases s with
  | none => rfl
  | some s =>
    have bound : s.length ≤ most := by simpa [atMost] using within
    simpa [atMost] using (Text.length_strip_le s).trans bound

theorem MarxivAuthor.valid_of_ofJson {a : MarxivAuthor} (read : MarxivAuthor.ofJson v = some a) : a.Valid := by
  simp only [MarxivAuthor.ofJson, bind_some, pure_some, Option.guard_eq_some'] at read
  obtain ⟨-, -, name, ⟨text, -, sized⟩, orcid, -, -, short, affiliation, -, -, brief, rfl⟩ := read
  obtain ⟨rfl, -, bound⟩ := sized_ok sized
  exact ⟨⟨Text.strip_strip _, (Text.length_strip_le _).trans (bound 256 rfl)⟩,
    ⟨by cases orcid <;> simp, atMost_strip short⟩, ⟨by cases affiliation <;> simp, atMost_strip brief⟩⟩

/-- An author reads back exactly when two characters are left of the name. -/
theorem MarxivAuthor.ofJson_toJson {a : MarxivAuthor} (valid : a.Valid) :
    MarxivAuthor.ofJson a.toJson = if 2 ≤ a.name.length then some a else none := by
  have closed : Record.closed MarxivAuthor.fields a.toJson = true := Record.closed_dict (by simp [MarxivAuthor.fields])
  obtain ⟨⟨name, bound⟩, ⟨orcid, short⟩, ⟨affiliation, brief⟩⟩ := valid
  rw [MarxivAuthor.ofJson, closed]
  by_cases long : 2 ≤ a.name.length
  · simp [MarxivAuthor.toJson, Record.sized, long, bound, short, brief, name, orcid, affiliation]
  · simp [MarxivAuthor.toJson, Record.sized, long]

theorem authors_readBack {authors : List MarxivAuthor} (valid : ∀ a ∈ authors, a.Valid)
    (names : ∀ a ∈ authors, 2 ≤ a.name.length) :
    (authors.map MarxivAuthor.toJson).mapM MarxivAuthor.ofJson = some authors := by
  induction authors with
  | nil => rfl
  | cons a rest ih =>
    have others := ih (fun b member => valid b (List.mem_cons_of_mem _ member))
      (fun b member => names b (List.mem_cons_of_mem _ member))
    have long : 2 ≤ a.name.length := names a (by simp)
    rw [List.map_cons, List.mapM_cons, MarxivAuthor.ofJson_toJson (valid a (by simp)), if_pos long, others]
    rfl

theorem names_of_readBack {authors others : List MarxivAuthor} (valid : ∀ a ∈ authors, a.Valid)
    (read : (authors.map MarxivAuthor.toJson).mapM MarxivAuthor.ofJson = some others) :
    ∀ a ∈ authors, 2 ≤ a.name.length := by
  induction authors generalizing others with
  | nil => simp
  | cons a rest ih =>
    rw [List.map_cons, List.mapM_cons, MarxivAuthor.ofJson_toJson (valid a (by simp))] at read
    simp only [bind_some] at read
    obtain ⟨first, head, tail, more, -⟩ := read
    intro b member
    rcases List.mem_cons.mp member with rfl | member
    · by_contra short
      rw [if_neg short] at head
      cases head
    · exact ih (fun c inside => valid c (List.mem_cons_of_mem _ inside)) more b member

/-! ## Targets and objects -/

/-- A target as the validator leaves it. -/
structure ArxivTarget.Valid (t : ArxivTarget) : Prop where
  primaryCategory : 3 ≤ t.primaryCategory.length
  crosslists : t.crosslistArchives.length = t.crosslistCategories.length

theorem ArxivTarget.valid_of_ofJson {t : ArxivTarget} (read : ArxivTarget.ofJson v = some t) : t.Valid := by
  simp only [ArxivTarget.ofJson, bind_some, pure_some, Option.guard_eq_some'] at read
  obtain ⟨-, -, -, -, archive, -, category, ⟨text, -, sized⟩, archives, -, categories, -, license, -, keep, -, comments,
    -, report, -, journal, -, acm, -, msc, -, doi, -, -, lengths, rfl⟩ := read
  obtain ⟨rfl, least, -⟩ := sized_ok sized
  exact ⟨least, lengths⟩

def ArxivTarget.toJson (t : ArxivTarget) : Json := .dict (("venue", .str "arxiv") :: t.metadata)

theorem ArxivTarget.ofJson_toJson {t : ArxivTarget} (valid : t.Valid) : ArxivTarget.ofJson t.toJson = some t := by
  have closed : Record.closed ArxivTarget.fields t.toJson = true :=
    Record.closed_dict (by simp [ArxivTarget.fields, ArxivTarget.metadata])
  rw [ArxivTarget.ofJson, closed]
  simp [ArxivTarget.toJson, ArxivTarget.metadata, Record.sized, valid.primaryCategory, valid.crosslists]

/-- A scientific object as the validator leaves it. -/
structure MarxivScientificObject.Valid (o : MarxivScientificObject) : Prop where
  objectId : (3 ≤ o.objectId.length ∧ o.objectId.length ≤ 120) ∧ isName o.objectId = true
  version : (1 ≤ o.version.length ∧ o.version.length ≤ 40) ∧ isName o.version = true
  title : 3 ≤ o.title.length ∧ o.title.length ≤ 512
  authors : 1 ≤ o.authors.length ∧ ∀ a ∈ o.authors, a.Valid
  abstract : 20 ≤ o.abstract.length
  manuscriptFile : 1 ≤ o.manuscriptFile.length
  lists : normalizeStringList o.keywords = some o.keywords ∧ normalizeStringList o.claims = some o.claims ∧
    normalizeStringList o.evidenceRefs = some o.evidenceRefs
  publication : o.publication.Valid

theorem mapM_valid {items : List Json} {authors : List MarxivAuthor}
    (read : items.mapM MarxivAuthor.ofJson = some authors) : ∀ a ∈ authors, a.Valid := by
  induction items generalizing authors with
  | nil =>
    obtain rfl := Option.some.inj read
    simp
  | cons v rest ih =>
    simp only [List.mapM_cons, bind_some, pure_some] at read
    obtain ⟨first, head, others, tail, rfl⟩ := read
    intro a member
    rcases List.mem_cons.mp member with rfl | member
    · exact MarxivAuthor.valid_of_ofJson head
    · exact ih tail a member

theorem MarxivScientificObject.valid_of_ofJson (read : MarxivScientificObject.ofJson v = some o) : o.Valid := by
  simp only [MarxivScientificObject.ofJson, bind_some, pure_some, Option.guard_eq_some'] at read
  obtain ⟨-, -, -, -, objectId, ⟨_, -, objectSized⟩, -, objectName, version, ⟨_, -, versionSized⟩, -, versionName,
    title, ⟨_, -, titleSized⟩, authors, listed, -, nonempty, abstract, ⟨_, -, abstractSized⟩, manuscript,
    ⟨_, -, manuscriptSized⟩, keywords, ⟨_, -, keywordsNormal⟩, claims, ⟨_, -, claimsNormal⟩, evidence,
    ⟨_, -, evidenceNormal⟩, parent, -, publication, target, rfl⟩ := read
  obtain ⟨rfl, objectLeast, objectMost⟩ := sized_ok objectSized
  obtain ⟨rfl, versionLeast, versionMost⟩ := sized_ok versionSized
  obtain ⟨rfl, titleLeast, titleMost⟩ := sized_ok titleSized
  obtain ⟨rfl, abstractLeast, -⟩ := sized_ok abstractSized
  obtain ⟨rfl, manuscriptLeast, -⟩ := sized_ok manuscriptSized
  obtain ⟨document, -, targetRead⟩ := Option.bind_eq_some_iff.mp target
  have authorsValid : ∀ a ∈ authors, a.Valid := by
    unfold listOf at listed
    split at listed
    · exact mapM_valid listed
    · cases listed
  exact ⟨⟨⟨objectLeast, objectMost 120 rfl⟩, objectName⟩, ⟨⟨versionLeast, versionMost 40 rfl⟩, versionName⟩,
    ⟨titleLeast, titleMost 512 rfl⟩, ⟨nonempty, authorsValid⟩, abstractLeast, manuscriptLeast,
    ⟨normalizeStringList_normal keywordsNormal, normalizeStringList_normal claimsNormal,
      normalizeStringList_normal evidenceNormal⟩, ArxivTarget.valid_of_ofJson targetRead⟩

theorem MarxivScientificObject.closed_toJson (o : MarxivScientificObject) :
    Record.closed MarxivScientificObject.fields o.toJson = true :=
  Record.closed_dict (by simp [MarxivScientificObject.fields])

theorem listOf_authors (authors : List MarxivAuthor) :
    listOf MarxivAuthor.ofJson (some (.arr (authors.map MarxivAuthor.toJson))) =
      (authors.map MarxivAuthor.toJson).mapM MarxivAuthor.ofJson := rfl

theorem MarxivScientificObject.ofJson_toJson (valid : o.Valid) (names : ∀ a ∈ o.authors, 2 ≤ a.name.length) :
    MarxivScientificObject.ofJson o.toJson = some o := by
  have authors := authors_readBack valid.authors.2 names
  have target : ArxivTarget.ofJson (.dict (("venue", .str "arxiv") :: o.publication.metadata)) = some o.publication :=
    ArxivTarget.ofJson_toJson valid.publication
  have nonempty : o.authors ≠ [] := List.ne_nil_of_length_pos valid.authors.1
  rw [MarxivScientificObject.ofJson, o.closed_toJson]
  simp [MarxivScientificObject.toJson, Record.sized, listOf_authors, authors, target, valid.objectId, valid.version,
    valid.title, valid.abstract, valid.manuscriptFile, valid.lists, nonempty, Nat.one_le_iff_ne_zero]

theorem MarxivScientificObject.names_of_ofJson {other : MarxivScientificObject} (valid : o.Valid)
    (read : MarxivScientificObject.ofJson o.toJson = some other) : ∀ a ∈ o.authors, 2 ≤ a.name.length := by
  simp only [MarxivScientificObject.ofJson, bind_some, pure_some, Option.guard_eq_some'] at read
  obtain ⟨-, -, -, -, -, -, -, -, -, -, -, -, -, -, authors, listed, -⟩ := read
  have found : o.toJson.get? "authors" = some (.arr (o.authors.map MarxivAuthor.toJson)) := by
    simp [MarxivScientificObject.toJson]
  rw [found, listOf_authors] at listed
  exact names_of_readBack valid.authors.2 listed

end MatVerse.Marxiv
