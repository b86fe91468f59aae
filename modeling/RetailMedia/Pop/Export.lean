import RetailMedia.Auth.Scopes
import RetailMedia.Campaign.Creatives
import RetailMedia.Lib.Csv
import RetailMedia.Lib.PyText
import RetailMedia.Pop.Reports

/-! The report of a campaign as a file of comma separated values. -/

namespace RetailMedia

/-! ## The file -/

/-- `str(datetime)`. -/
def DateTime.str (t : DateTime) : String :=
  let ofDay := (t.wall % dayMicros).toNat
  let seconds := ofDay / 1000000
  let micros := ofDay % 1000000
  dateIsoformat t.date ++ " " ++ padded 2 t.hour ++ ":" ++ padded 2 (seconds / 60 % 60) ++ ":" ++
    padded 2 (seconds % 60) ++ (if micros ≠ 0 then "." ++ padded 6 micros else "") ++
    offsetText t.offset

/-- `strftime("%Y-%m-%d %H:%M:%S UTC")`. -/
def generatedAt (now : Int) : String :=
  let t := DateTime.utc now
  let seconds := (t.wall % dayMicros).toNat / 1000000
  dateIsoformat t.date ++ " " ++ padded 2 t.hour ++ ":" ++ padded 2 (seconds / 60 % 60) ++ ":" ++
    padded 2 (seconds % 60) ++ " UTC"

/-- `code.replace('"', "").replace("'", "").replace("/", "_")[:64]`. -/
def safeCode (code : String) : List Char :=
  (((code.toList.filter (· ≠ '"')).filter (· ≠ Json.quoteChar)).map
    fun c ↦ if c = '/' then '_' else c).take 64

structure PopReport where
  campaign : Campaign
  now : Int
  summary : CampaignPopSummary
  byDay : List PopDayRow
  bySurface : List PopSurfaceRow

namespace PopReport

variable (r : PopReport)

def header : List (List String) := [
  ["Отчёт по показам"],
  ["Кампания: " ++ r.campaign.name ++ " (" ++ r.campaign.code ++ ")"],
  ["Сформирован: " ++ generatedAt r.now]]

def summaryRows : List (List String) := [
  ["Сводка"],
  ["Показы", r.summary.impressionsCount.repr],
  ["Общая длительность (мс)", r.summary.totalDurationMs.repr],
  ["Устройств", r.summary.uniqueDevices.repr],
  ["Поверхностей", r.summary.uniqueSurfaces.repr]] ++
  (r.summary.firstRenderedAt.map fun t ↦ ["Первый показ", (DateTime.utc t).str]).toList ++
  (r.summary.lastRenderedAt.map fun t ↦ ["Последний показ", (DateTime.utc t).str]).toList

def dayRows : List (List String) :=
  ["По дням"] :: ["Дата", "Показы", "Длительность (мс)"] ::
    r.byDay.map fun row ↦
      [dateIsoformat row.date, row.impressionsCount.repr, row.totalDurationMs.repr]

def surfaceRows : List (List String) :=
  ["По поверхностям"] :: ["Поверхность", "Показы", "Длительность (мс)"] ::
    r.bySurface.map fun row ↦ [row.surfaceId, row.impressionsCount.repr, row.totalDurationMs.repr]

def rows : List (List String) :=
  r.header ++ [] :: r.summaryRows ++ [] :: r.dayRows ++ [] :: r.surfaceRows

end PopReport

/-- The rows as the writer takes them. -/
def csvRows (rows : List (List String)) : List Csv.Row := rows.map (·.map String.toList)

def byteOrderMark : Char := Char.ofNat 0xFEFF

structure CsvFile where
  content : List Char
  filename : List Char
  deriving DecidableEq, Repr

def PopReport.file (r : PopReport) : CsvFile where
  content := byteOrderMark :: Csv.write (csvRows r.rows)
  filename := safeCode r.campaign.code ++ "_pop_report.csv".toList

/-! ## The endpoint -/

def requireCampaignVisible (db : Db) (campaignId : String) (scope : ScopeContext) :
    Except HttpError Campaign :=
  match Rows.get Campaign.id campaignId db.campaigns with
  | none => .error ⟨404, "Campaign not found"⟩
  | some campaign =>
      if scope.isAdmin = false ∧ campaign.advertiserOrganizationId ∉ scope.advertiserScopeIds then
        .error ⟨404, "Campaign not found"⟩
      else .ok campaign

/-- Headers are sent in Latin-1: a name with another character raises. -/
def CsvFile.respond (file : CsvFile) : Except HttpError CsvFile :=
  if file.filename.all (·.toNat < 256) then .ok file
  else .error ⟨500, "Internal Server Error"⟩

def exportCampaignPopCsv (localDate : String → Int → Int) (tz : TimezoneColumns) (db : Db)
    (campaignId : String) (scope : ScopeContext) (now : Int) : Except HttpError CsvFile :=
  (requireCampaignVisible db campaignId scope).bind fun campaign ↦
    (PopReport.file {
      campaign := campaign
      now := now
      summary := getCampaignPopSummary db campaignId
      byDay := listCampaignPopByDay localDate tz db campaignId
      bySurface := listCampaignPopBySurface db campaignId }).respond

/-! ## What a reader finds in it -/

/-- The numbers that a report tells, with times and dates as texts. -/
@[ext] structure ReportNumbers where
  impressionsCount : Nat
  totalDurationMs : Int
  uniqueDevices : Nat
  uniqueSurfaces : Nat
  firstRenderedAt : Option String
  lastRenderedAt : Option String
  byDay : List (String × Nat × Int)
  bySurface : List (String × Nat × Int)
  deriving DecidableEq, Repr

def PopReport.numbers (r : PopReport) : ReportNumbers where
  impressionsCount := r.summary.impressionsCount
  totalDurationMs := r.summary.totalDurationMs
  uniqueDevices := r.summary.uniqueDevices
  uniqueSurfaces := r.summary.uniqueSurfaces
  firstRenderedAt := r.summary.firstRenderedAt.map fun t ↦ (DateTime.utc t).str
  lastRenderedAt := r.summary.lastRenderedAt.map fun t ↦ (DateTime.utc t).str
  byDay := r.byDay.map fun row ↦ (dateIsoformat row.date, row.impressionsCount, row.totalDurationMs)
  bySurface := r.bySurface.map fun row ↦ (row.surfaceId, row.impressionsCount, row.totalDurationMs)

section Read

variable {r r' : PopReport}

theorem csvRows_injective {rows rows' : List (List String)} (h : csvRows rows = csvRows rows') :
    rows = rows' := by
  have hrow : Function.Injective (List.map String.toList) :=
    List.map_injective_iff.2 fun _ _ ↦ String.toList_inj.1
  exact List.map_injective_iff.2 hrow h

theorem rows_of_content (h : r.file.content = r'.file.content) : r.rows = r'.rows :=
  csvRows_injective (Csv.write_injective (List.cons.inj h).2)

/-- A counted row, as both tables have it. -/
def countedRow (row : String × Nat × Int) : List String := [row.1, row.2.1.repr, row.2.2.repr]

theorem countedRow_injective : Function.Injective countedRow := by
  rintro ⟨label, n, d⟩ ⟨label', n', d'⟩ h
  unfold countedRow at h
  simp only [List.cons.injEq, and_true] at h
  obtain ⟨hlabel, hn, hd⟩ := h
  rw [hlabel, Nat.repr_injective hn, Int.repr_injective hd]

theorem dayRows_eq (r : PopReport) : r.dayRows =
    ["По дням"] :: ["Дата", "Показы", "Длительность (мс)"] :: r.numbers.byDay.map countedRow := by
  unfold PopReport.dayRows PopReport.numbers
  rw [List.map_map]
  rfl

theorem surfaceRows_eq (r : PopReport) : r.surfaceRows =
    ["По поверхностям"] :: ["Поверхность", "Показы", "Длительность (мс)"] ::
      r.numbers.bySurface.map countedRow := by
  unfold PopReport.surfaceRows PopReport.numbers
  rw [List.map_map]
  rfl

/-- The two times are told apart by their labels. -/
theorem timeRows_injective {o o' p p' : Option String}
    (h : (o.map fun t ↦ ["Первый показ", t]).toList ++
        (p.map fun t ↦ ["Последний показ", t]).toList =
      (o'.map fun t ↦ ["Первый показ", t]).toList ++
        (p'.map fun t ↦ ["Последний показ", t]).toList) : o = o' ∧ p = p' := by
  cases o <;> cases o' <;> cases p <;> cases p' <;> simp_all

theorem summaryRows_eq (r : PopReport) : r.summaryRows = [
    ["Сводка"],
    ["Показы", r.numbers.impressionsCount.repr],
    ["Общая длительность (мс)", r.numbers.totalDurationMs.repr],
    ["Устройств", r.numbers.uniqueDevices.repr],
    ["Поверхностей", r.numbers.uniqueSurfaces.repr]] ++
    ((r.numbers.firstRenderedAt.map fun t ↦ ["Первый показ", t]).toList ++
      (r.numbers.lastRenderedAt.map fun t ↦ ["Последний показ", t]).toList) := by
  unfold PopReport.summaryRows PopReport.numbers
  rw [Option.map_map, Option.map_map, List.append_assoc]
  rfl

theorem header_ne_nil (r : PopReport) : ∀ row ∈ r.header, row ≠ [] := by
  unfold PopReport.header
  simp

theorem summaryRows_ne_nil (r : PopReport) : ∀ row ∈ r.summaryRows, row ≠ [] := by
  intro row hrow
  unfold PopReport.summaryRows at hrow
  rintro rfl
  simp at hrow

theorem dayRows_ne_nil (r : PopReport) : ∀ row ∈ r.dayRows, row ≠ [] := by
  unfold PopReport.dayRows
  simp

theorem csvRows_block (rows rest : List (List String)) :
    csvRows (rows ++ [] :: rest) = Csv.block (csvRows rows) (csvRows rest) := List.map_append

theorem csvRows_ne_nil {rows : List (List String)} (h : ∀ row ∈ rows, row ≠ []) :
    ∀ row ∈ csvRows rows, row ≠ [] := by
  intro row hrow
  obtain ⟨texts, htexts, rfl⟩ := List.mem_map.1 hrow
  exact fun hnil ↦ h texts htexts (List.map_eq_nil_iff.1 hnil)

/-- The sections of a file are found again at its empty rows, whatever the texts in them. -/
theorem sections_of_content (h : r.file.content = r'.file.content) :
    r.header = r'.header ∧ r.summaryRows = r'.summaryRows ∧ r.dayRows = r'.dayRows ∧
      r.surfaceRows = r'.surfaceRows := by
  have hrows := congrArg csvRows (rows_of_content h)
  unfold PopReport.rows at hrows
  rw [List.append_assoc, List.append_assoc, List.append_assoc, List.append_assoc] at hrows
  simp only [List.cons_append, csvRows_block] at hrows
  obtain ⟨hheader, hrows⟩ := Csv.block_injective (csvRows_ne_nil (header_ne_nil r))
    (csvRows_ne_nil (header_ne_nil r')) hrows
  obtain ⟨hsummary, hrows⟩ := Csv.block_injective (csvRows_ne_nil (summaryRows_ne_nil r))
    (csvRows_ne_nil (summaryRows_ne_nil r')) hrows
  obtain ⟨hdays, hsurfaces⟩ := Csv.block_injective (csvRows_ne_nil (dayRows_ne_nil r))
    (csvRows_ne_nil (dayRows_ne_nil r')) hrows
  exact ⟨csvRows_injective hheader, csvRows_injective hsummary, csvRows_injective hdays,
    csvRows_injective hsurfaces⟩

theorem numbers_of_content (h : r.file.content = r'.file.content) : r.numbers = r'.numbers := by
  obtain ⟨-, hsummary, hdays, hsurfaces⟩ := sections_of_content h
  rw [summaryRows_eq, summaryRows_eq] at hsummary
  obtain ⟨hcounts, htimes⟩ := List.append_inj hsummary rfl
  obtain ⟨hfirst, hlast⟩ := timeRows_injective htimes
  simp only [List.cons.injEq, and_true, true_and] at hcounts
  obtain ⟨himpressions, hduration, hdevices, hcarriers⟩ := hcounts
  rw [dayRows_eq, dayRows_eq] at hdays
  rw [surfaceRows_eq, surfaceRows_eq] at hsurfaces
  have hday := List.map_injective_iff.2 countedRow_injective
    (List.cons.inj (List.cons.inj hdays).2).2
  have hsurface := List.map_injective_iff.2 countedRow_injective
    (List.cons.inj (List.cons.inj hsurfaces).2).2
  exact ReportNumbers.ext (Nat.repr_injective himpressions) (Int.repr_injective hduration)
    (Nat.repr_injective hdevices) (Nat.repr_injective hcarriers) hfirst hlast hday hsurface

end Read

/-- No character of the name can end the quoted string in the `Content-Disposition` header. -/
theorem safeCode_safe {code : String} {c : Char} (h : c ∈ safeCode code) :
    c ≠ '"' ∧ c ≠ Json.quoteChar ∧ c ≠ '/' := by
  obtain ⟨d, hd, hc⟩ := List.mem_map.1 (List.mem_of_mem_take h)
  obtain ⟨hd, happostrophe⟩ := List.mem_filter.1 hd
  have hquote := of_decide_eq_true (List.mem_filter.1 hd).2
  have happostrophe := of_decide_eq_true happostrophe
  subst hc
  split
  · decide
  · rename_i hslash
    exact ⟨hquote, happostrophe, hslash⟩

theorem respond_ok {file sent : CsvFile} (h : file.respond = .ok sent) :
    file = sent ∧ ∀ c ∈ file.filename, c.toNat < 256 := by
  unfold CsvFile.respond at h
  split at h
  · rename_i hlatin
    cases h
    exact ⟨rfl, fun c hc ↦ of_decide_eq_true (List.all_eq_true.1 hlatin c hc)⟩
  · cases h

/-- A caller gets a file only of a campaign that is theirs; read back, it has the rows of the
three reports, whose columns add up to the summary, and no other report has the same file. -/
theorem export_reads_back (localDate : String → Int → Int) (tz : TimezoneColumns) {db : Db}
    (hkeys : LocationKeys db) (campaignId : String) (scope : ScopeContext) (now : Int)
    {file : CsvFile} (h : exportCampaignPopCsv localDate tz db campaignId scope now = .ok file) :
    (∃ campaign ∈ db.campaigns, campaign.id = campaignId ∧
      (scope.isAdmin = true ∨ campaign.advertiserOrganizationId ∈ scope.advertiserScopeIds)) ∧
    (∃ r : PopReport, r.file = file ∧ Csv.read (file.content.drop 1) = csvRows r.rows ∧
      r.summary = getCampaignPopSummary db campaignId ∧
      (r.byDay.map (·.impressionsCount)).sum = r.summary.impressionsCount ∧
      (r.byDay.map (·.totalDurationMs)).sum = r.summary.totalDurationMs ∧
      (r.bySurface.map (·.impressionsCount)).sum = r.summary.impressionsCount ∧
      (r.bySurface.map (·.totalDurationMs)).sum = r.summary.totalDurationMs ∧
      ∀ r' : PopReport, r'.file.content = file.content → r'.numbers = r.numbers) ∧
    ∃ name, file.filename = name ++ "_pop_report.csv".toList ∧ name.length ≤ 64 ∧
      ∀ c ∈ name, (c ≠ '"' ∧ c ≠ Json.quoteChar ∧ c ≠ '/') ∧ c.toNat < 256 := by
  unfold exportCampaignPopCsv requireCampaignVisible at h
  split at h
  · cases h
  · rename_i campaign hcampaign
    split at h
    · cases h
    · rename_i hvisible
      obtain ⟨hfile, hlatin⟩ := respond_ok h
      cases hfile
      have hid := Rows.get_key hcampaign
      have hname : ∀ c ∈ safeCode campaign.code,
          (c ≠ '"' ∧ c ≠ Json.quoteChar ∧ c ≠ '/') ∧ c.toNat < 256 :=
        fun c hc ↦ ⟨safeCode_safe hc, hlatin c (List.mem_append_left _ hc)⟩
      refine ⟨⟨campaign, Rows.get_mem hcampaign, hid, ?_⟩, ⟨_, rfl, Csv.read_write _, rfl, ?_⟩,
        safeCode campaign.code, rfl, List.length_take_le 64 _, hname⟩
      · by_cases hadmin : scope.isAdmin = true
        · exact .inl hadmin
        · refine .inr ?_
          by_contra horg
          exact hvisible ⟨Bool.not_eq_true _ ▸ hadmin, horg⟩
      · exact ⟨byDay_impressions localDate tz hkeys campaignId,
          byDay_duration localDate tz hkeys campaignId, bySurface_impressions db campaignId,
          bySurface_duration db campaignId, fun r' hr' ↦ numbers_of_content hr'⟩

/-- The name of the campaign tries to end its row and to begin a summary of its own. -/
def forgedName : Campaign where
  id := "c"
  advertiserOrganizationId := "org"
  advertiserContractId := "k"
  code := "C/1"
  name := "x\"\r\n\r\nСводка\r\nПоказы,999"

def forgedPlays : Db := { eveningPlays with campaigns := [forgedName] }

theorem forgedName_reads_back : ∃ file,
    exportCampaignPopCsv russianDate storeTimezones forgedPlays "c"
        { userId := "u", advertiserScopeIds := ["org"] } 0 = .ok file ∧
      ∃ r : PopReport, r.file = file ∧ Csv.read (file.content.drop 1) = csvRows r.rows ∧
        r.summary.impressionsCount = 2 := by
  have hkeys : LocationKeys forgedPlays :=
    ⟨eveningPlays_keys.surfaces, eveningPlays_keys.stores, eveningPlays_keys.clusters,
      eveningPlays_keys.branches⟩
  obtain ⟨-, ⟨r, hfile, hread, hsummary, -⟩, -⟩ := export_reads_back russianDate storeTimezones
    hkeys "c" { userId := "u", advertiserScopeIds := ["org"] } 0 rfl
  refine ⟨_, rfl, r, hfile, hread, ?_⟩
  rw [hsummary]
  decide +kernel

end RetailMedia
