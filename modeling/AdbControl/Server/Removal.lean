import AdbControl.Remote.AccountDatabase
import AdbControl.Server.Accounts
import AdbControl.Server.CatalogCards

namespace AdbControl.Server

open Framework Remote

def catalogSaveFailed : AppError :=
  ⟨"DEVICE_CATALOG_SAVE_FAILED", "设备记忆目录保存失败", "device.catalog", false, none⟩

structure RemovalResult where
  disconnected : List String
  forgotten : List String
  deriving DecidableEq, Repr

namespace Service

/-- `Service.List`, from the outcome of listing the live devices. -/
def list (c : Catalog) (io : SaveOutcome) (live : Except AppError (List Device)) :
    Catalog × Except AppError (List Device) :=
  match live with
  | .error e => (c, .error e)
  | .ok live =>
    let merged := c.merge io live
    (merged.1, merged.2.mapError (fun _ => catalogSaveFailed))

/-- An assigned id that no device is known by gets a card of its own. -/
def rememberAssigned (merged : List Device) (assignedID : String) : List Device :=
  if isBlank assignedID then merged
  else if merged.any (fun candidate => sameCatalogDevice candidate { id := assignedID }) then merged
  else merged ++ [{
    id := assignedID
    name := assignedID
    state := "offline"
    transport := if isWirelessADBIdentity assignedID then "wireless" else "usb" }]

def rememberAssignments (c : Catalog) (io : SaveOutcome) (devices : List Device)
    (assignedIDs : List String) : Catalog × Except AppError (List Device) :=
  let remembered := c.merge io (assignedIDs.foldl rememberAssigned devices)
  (remembered.1, remembered.2.mapError (fun _ => catalogSaveFailed))

/-- The wireless connections of the live devices that are the device to remove. -/
def connectionIDs (live : List Device) (deviceID : String) : List String :=
  ((live.filter (fun candidate => sameCatalogDevice candidate { id := deviceID })).flatMap
    Device.ids).foldl (fun ids connectionID =>
      if isWirelessADBIdentity connectionID then appendUnique ids [connectionID] else ids) []

/-- One connection is ended after the other, up to the first failure. -/
def disconnectAll (disconnect : String → Except AppError Unit) :
    List String → List String × Except AppError Unit
  | [] => ([], .ok ())
  | connectionID :: rest =>
    match disconnect connectionID with
    | .error e => ([], .error e)
    | .ok () =>
      let ended := disconnectAll disconnect rest
      (connectionID :: ended.1, ended.2)

/-- `Service.Remove`, from the outcomes of listing the live devices and of each disconnect. -/
def remove (c : Catalog) (io : SaveOutcome) (live : Except AppError (List Device))
    (disconnect : String → Except AppError Unit) (deviceID : String) :
    Catalog × Except AppError RemovalResult :=
  match live with
  | .error e => (c, .error e)
  | .ok live =>
    let ended := disconnectAll disconnect (connectionIDs live deviceID)
    match ended.2 with
    | .error e => (c, .error e)
    | .ok () =>
      let removed := c.remove io deviceID
      (removed.1, match removed.2 with
        | .error _ => .error catalogSaveFailed
        | .ok (some card) => .ok ⟨ended.1, appendUnique [card.id] card.aliases⟩
        | .ok none => .ok ⟨ended.1, [deviceID]⟩)

end Service

/-- The server's device directory, and the accounts of the Core behind it. -/
structure ServerState where
  catalog : Catalog
  accounts : RemoteAccountManager

def unauthorized : AppError :=
  ⟨"AUTH_REQUIRED", "登录状态已失效，请重新登录", "api.auth", true, none⟩

/-- What a removal meets: the live devices, how each disconnect and the save go, and what happens
to each call of Core, by its number. -/
structure RemovalEnv where
  live : Except AppError (List Device)
  disconnect : String → Except AppError Unit
  save : SaveOutcome
  delivery : Nat → Delivery

def matchesRemovedDevice (assignedID : String) (removedIDs : List String) : Bool :=
  removedIDs.any (fun removedID => equivalentDeviceID assignedID removedID)

/-- The assignments of removed ids, account by account. -/
def assignmentsOf (users : List Account) (removedIDs : List String) : List (String × String) :=
  users.flatMap (fun account => (account.devices.filter
    (fun assignedID => matchesRemovedDevice assignedID removedIDs)).map
      (fun assignedID => (account.username, assignedID)))

/-- The assignments are withdrawn one by one, up to the first failure. -/
def withdrawAll (P : Platform) (session : Session) (delivery : Nat → Delivery) :
    List (String × String) → Nat → RemoteAccountManager →
      RemoteAccountManager × Except AppError Unit
  | [], _, m => (m, .ok ())
  | (username, assignedID) :: rest, n, m =>
    let withdrawn := setRemoteUserDevice P m (delivery n) session username assignedID false
    match withdrawn.2 with
    | .error e => (withdrawn.1, .error e)
    | .ok _ => withdrawAll P session delivery rest (n + 1) withdrawn.1

/-- The handler of a removal. -/
def removeDevice (P : Platform) (s : ServerState) (env : RemovalEnv) (session : Option Session)
    (deviceID : String) : ServerState × Except AppError RemovalResult :=
  match session with
  | none => (s, .error unauthorized)
  | some session =>
    let removed := Service.remove s.catalog env.save env.live env.disconnect deviceID
    match removed.2 with
    | .error e => ({ s with catalog := removed.1 }, .error e)
    | .ok result =>
      let listed := listRemoteUsers P s.accounts (env.delivery 0) session
      match listed.2 with
      | .error e => (⟨removed.1, listed.1⟩, .error e)
      | .ok users =>
        let withdrawn := withdrawAll P session env.delivery
          (assignmentsOf users result.forgotten) 1 listed.1
        (⟨removed.1, withdrawn.1⟩, withdrawn.2.map (fun _ => result))

/-- What a listing of the devices meets. -/
structure ListingEnv where
  live : Except AppError (List Device)
  save : SaveOutcome
  saveAssigned : SaveOutcome
  delivery : Delivery
  session : Option Session

/-- The listing of the remembered devices: the live ones merged, then those that the accounts
still name. -/
def listRememberedDevices (P : Platform) (s : ServerState) (env : ListingEnv) :
    ServerState × Except AppError (List Device) :=
  let listed := Service.list s.catalog env.save env.live
  match listed.2, env.session with
  | .error e, _ => ({ s with catalog := listed.1 }, .error e)
  | .ok devices, none => ({ s with catalog := listed.1 }, .ok devices)
  | .ok devices, some session =>
    let users := listRemoteUsers P s.accounts env.delivery session
    match users.2 with
    | .error _ => (⟨listed.1, users.1⟩, .ok devices)
    | .ok accounts =>
      let remembered := Service.rememberAssignments listed.1 env.saveAssigned devices
        (accounts.flatMap Account.devices)
      (⟨remembered.1, users.1⟩, remembered.2)

/-- No id of the device is the id, whatever collision number either has. -/
def Stranger (device : Device) (deviceID : String) : Prop :=
  sameCatalogDevice device { id := deviceID } = false

theorem stranger_iff {device : Device} {deviceID : String} :
    Stranger device deviceID ↔ ∀ x ∈ device.ids, markOf x ≠ markOf deviceID := by
  have ids : sameCatalogDevice device { id := deviceID } =
      device.ids.any (fun x => equivalentDeviceID x deviceID) := by
    simp [sameCatalogDevice, Device.ids]
  rw [Stranger, ids, List.any_eq_false]
  simp only [equivalentDeviceID_iff_markOf, ne_eq]

/-- What the removal of a device is to achieve: its card is gone and no account names it, by the
removed id or an id of the removed card, and no listing shows it while it is not online. -/
structure Removed (P : Platform) (s : ServerState) (card : Option Device) (deviceID : String) :
    Prop where
  cards : ∀ card ∈ s.catalog.devices, Stranger card deviceID
  assignments : ∀ (username : String) (user : StoredAccount),
    s.accounts.database.users[username]? = some user → user.role = .user →
    ∀ assignedID ∈ user.devices, equivalentDeviceID assignedID deviceID = false ∧
      ∀ removed : Device, card = some removed → ∀ x ∈ removed.ids, equivalentDeviceID assignedID x = false
  listings : ∀ envs : List ListingEnv,
    (∀ env ∈ envs, ∀ live, env.live = .ok live → ∀ current ∈ live, Stranger current deviceID) →
    Along (fun s env => (listRememberedDevices P s env).1)
      (fun s env => ∀ devices, (listRememberedDevices P s env).2 = .ok devices →
        ∀ entry ∈ devices, Stranger entry deviceID) s envs

/-- There is one card of the device at most, and `Remove` finds it. -/
def SoleCard (devices : List Device) (deviceID : String) : Prop :=
  (devices.filter (fun card => sameCatalogDevice card { id := deviceID })).length ≤ 1 ∧
    ∀ card ∈ devices, sameCatalogDevice card { id := deviceID } = true →
      Catalog.isCard deviceID card = true

section Cards

variable {c : Catalog} {io : SaveOutcome} {devices live : List Device} {deviceID : String}

theorem same_of_isCard {card : Device} (h : Catalog.isCard deviceID card = true) :
    sameCatalogDevice card { id := deviceID } = true := by
  by_contra hne
  have stranger : Stranger card deviceID := by simpa [Stranger] using hne
  rw [stranger_iff] at stranger
  simp only [Catalog.isCard, Bool.or_eq_true, beq_iff_eq, List.contains_iff_mem,
    equivalentDeviceID_iff_markOf] at h
  rcases h with (hid | halias) | hequivalent
  · exact stranger card.id List.mem_cons_self (by rw [hid])
  · exact stranger deviceID (List.mem_cons_of_mem _ halias) rfl
  · exact stranger card.id List.mem_cons_self hequivalent

/-- Of a list without the first card found, no card is the device exactly when that was its sole
card. -/
theorem strangers_erase_iff : (∀ card ∈ devices.eraseP (Catalog.isCard deviceID),
    Stranger card deviceID) ↔ SoleCard devices deviceID := by
  induction devices with
  | nil => simp [SoleCard]
  | cons card devices ih =>
    cases hcard : Catalog.isCard deviceID card with
    | true =>
      have hsame := same_of_isCard hcard
      rw [List.eraseP_cons_of_pos hcard]
      simp only [SoleCard, List.filter_cons, hsame, if_true, List.length_cons, List.mem_cons,
        forall_eq_or_imp, hcard, implies_true, true_and, Stranger]
      constructor
      · intro h
        have gone : devices.filter (fun card => sameCatalogDevice card { id := deviceID }) = [] := by
          rw [List.filter_eq_nil_iff]
          intro card hcard
          simp [h card hcard]
        refine ⟨by simp [gone], ?_⟩
        intro card hmem hsame
        rw [h card hmem] at hsame
        cases hsame
      · intro h card hmem
        have gone : devices.filter (fun card => sameCatalogDevice card { id := deviceID }) = [] :=
          List.eq_nil_of_length_eq_zero (by omega)
        rw [List.filter_eq_nil_iff] at gone
        simpa using gone card hmem
    | false =>
      rw [List.eraseP_cons_of_neg (by simp [hcard])]
      simp only [List.mem_cons, forall_eq_or_imp, ih]
      cases hsame : sameCatalogDevice card { id := deviceID } with
      | true => simp [SoleCard, Stranger, hsame, hcard]
      | false => simp [SoleCard, Stranger, hsame]

/-- A merge of strangers gives strangers. -/
theorem strangers_merge (cards : ∀ card ∈ devices, Stranger card deviceID)
    (current : ∀ current ∈ live, Stranger current deviceID) :
    ∀ entry ∈ mergeDevices devices live, Stranger entry deviceID := by
  intro entry hentry
  rw [mergeDevices_eq, List.mem_append, List.mem_map] at hentry
  rcases hentry with ⟨⟨card, taker⟩, hp, rfl⟩ | hleft
  · have hcard := cards card (greedy_mem_item hp)
    cases taker with
    | none => exact hcard
    | some taker =>
      have htaker := current taker (greedy_mem_candidate hp)
      rw [stranger_iff] at hcard htaker ⊢
      intro x hx
      rcases mem_mergeDevice_ids.mp hx with hid | ⟨-, halias | hcardID⟩
      · exact htaker x (by rw [hid]; exact List.mem_cons_self)
      · exact htaker x (List.mem_cons_of_mem _ halias)
      · exact hcard x hcardID
  · exact current entry ((greedy_left_sublist sameCatalogDevice devices live).subset hleft)

theorem strangers_catalog_merge (io : SaveOutcome)
    (cards : ∀ card ∈ c.devices, Stranger card deviceID)
    (current : ∀ current ∈ live, Stranger current deviceID) :
    (∀ card ∈ (c.merge io live).1.devices, Stranger card deviceID) ∧
    ∀ result, (c.merge io live).2 = .ok result → ∀ entry ∈ result, Stranger entry deviceID := by
  have merged := strangers_merge cards current
  have stored : ∀ card ∈ (mergeDevices c.devices live).map Device.offline,
      Stranger card deviceID := by
    intro card hcard
    obtain ⟨entry, hentry, rfl⟩ := List.mem_map.mp hcard
    exact merged entry hentry
  rcases c.merge_cases io live with ⟨-, -, hmerge⟩ | ⟨file, -, hmerge⟩ | ⟨file, -, hmerge⟩
  · rw [hmerge]
    exact ⟨cards, fun result hresult => (by cases hresult; exact merged)⟩
  · rw [hmerge]
    exact ⟨stored, fun result hresult => (by cases hresult; exact merged)⟩
  · rw [hmerge]
    exact ⟨cards, fun result hresult => nomatch hresult⟩

/-- An assigned id adds nothing, or a device known by it alone. -/
theorem rememberAssigned_cases (devices : List Device) (assignedID : String) :
    Service.rememberAssigned devices assignedID = devices ∨ ∃ device : Device,
      device.ids = [assignedID] ∧ Service.rememberAssigned devices assignedID = devices ++ [device] := by
  unfold Service.rememberAssigned
  by_cases hblank : isBlank assignedID = true
  · exact Or.inl (if_pos hblank)
  · rw [if_neg hblank]
    by_cases hknown : devices.any
        (fun candidate => sameCatalogDevice candidate { id := assignedID }) = true
    · exact Or.inl (if_pos hknown)
    · exact Or.inr ⟨_, rfl, if_neg hknown⟩

/-- Assigned ids that are not the device add no card of it. -/
theorem strangers_rememberAssigned {assignedIDs : List String}
    (h : ∀ entry ∈ devices, Stranger entry deviceID)
    (assigned : ∀ x ∈ assignedIDs, equivalentDeviceID x deviceID = false) :
    ∀ entry ∈ assignedIDs.foldl Service.rememberAssigned devices, Stranger entry deviceID := by
  induction assignedIDs generalizing devices with
  | nil => exact h
  | cons x assignedIDs ih =>
    rw [List.foldl_cons]
    refine ih ?_ (fun y hy => assigned y (List.mem_cons_of_mem _ hy))
    intro entry hentry
    rcases rememberAssigned_cases devices x with hsame | ⟨device, hids, hnew⟩
    · rw [hsame] at hentry
      exact h entry hentry
    · rw [hnew, List.mem_append, List.mem_singleton] at hentry
      rcases hentry with hold | rfl
      · exact h entry hold
      · rw [stranger_iff, hids]
        intro y hy
        have hx := assigned x List.mem_cons_self
        rw [← Bool.not_eq_true, equivalentDeviceID_iff_markOf] at hx
        rwa [List.mem_singleton.mp hy]

/-- A removal that succeeds takes the card found out of the catalog, and forgets its ids, or the
id itself where no card is found. -/
theorem remove_ok {live : Except AppError (List Device)}
    {disconnect : String → Except AppError Unit} {result : RemovalResult}
    (h : (Service.remove c io live disconnect deviceID).2 = .ok result) :
    (Service.remove c io live disconnect deviceID).1.devices =
        c.devices.eraseP (Catalog.isCard deviceID) ∧
      result.forgotten = match c.devices.find? (Catalog.isCard deviceID) with
        | some card => appendUnique [card.id] card.aliases
        | none => [deviceID] := by
  cases live with
  | error e => cases h
  | ok live =>
    simp only [Service.remove] at h ⊢
    cases hended : (Service.disconnectAll disconnect (Service.connectionIDs live deviceID)).2 with
    | error e => simp [hended] at h
    | ok u =>
      simp only [hended, Catalog.remove] at h ⊢
      cases hfind : c.devices.find? (Catalog.isCard deviceID) with
      | none =>
        simp only [hfind] at h ⊢
        cases h
        refine ⟨(List.eraseP_of_forall_not ?_).symm, rfl⟩
        intro card hcard
        simpa using List.find?_eq_none.mp hfind card hcard
      | some card =>
        simp only [hfind] at h ⊢
        cases hsave : c.saveLocked io (c.devices.eraseP (Catalog.isCard deviceID)) with
        | mk file saved =>
          cases saved with
          | false => simp [hsave] at h
          | true =>
            simp only [hsave] at h ⊢
            cases h
            exact ⟨trivial, rfl⟩

end Cards

section Assignments

variable {P : Platform} {s s' : ServerState} {m : RemoteAccountManager} {deviceID : String}

/-- No user is assigned the device under any name of it. -/
def Unassigned (m : RemoteAccountManager) (deviceID : String) : Prop :=
  ∀ (username : String) (user : StoredAccount), m.database.users[username]? = some user →
    user.role = .user → ∀ assignedID ∈ user.devices, equivalentDeviceID assignedID deviceID = false

/-- Assignments that are withdrawn are gone from their accounts, which else stay as they were. -/
theorem withdrawAll_ok {session : Session} {delivery : Nat → Delivery}
    {assignments : List (String × String)} {n : Nat}
    (h : (withdrawAll P session delivery assignments n m).2 = .ok ()) {username : String}
    {user : StoredAccount}
    (huser : (withdrawAll P session delivery assignments n m).1.database.users[username]? =
      some user) :
    ∃ before, m.database.users[username]? = some before ∧ user.role = before.role ∧
      ∀ assignedID ∈ user.devices, assignedID ∈ before.devices ∧
        (username, assignedID) ∉ assignments := by
  induction assignments generalizing n m with
  | nil => exact ⟨user, huser, rfl, fun assignedID hassigned => ⟨hassigned, by simp⟩⟩
  | cons assignment rest ih =>
    obtain ⟨owner, removedID⟩ := assignment
    rw [withdrawAll] at h huser
    cases hset : (setRemoteUserDevice P m (delivery n) session owner removedID false).2 with
    | error e => simp [hset] at h
    | ok account =>
      simp only [hset] at h huser
      obtain ⟨old, hold, hdatabase⟩ := setRemoteUserDevice_ok hset
      obtain ⟨between, hbetween, hrole, hdevices⟩ := ih h huser
      rw [hdatabase, RemoteAccountManager.putUser_users, Keyed.lookup_insert] at hbetween
      split_ifs at hbetween with howner
      · cases hbetween
        subst howner
        refine ⟨old, hold, hrole, ?_⟩
        intro assignedID hassigned
        obtain ⟨hmem, hrest⟩ := hdevices assignedID hassigned
        rw [KeySet.mem_erase_iff] at hmem
        refine ⟨hmem.2, ?_⟩
        intro hhead
        rcases List.mem_cons.mp hhead with he | hlater
        · cases he
          exact hmem.1 rfl
        · exact hrest hlater
      · refine ⟨between, hbetween, hrole, ?_⟩
        intro assignedID hassigned
        obtain ⟨hmem, hrest⟩ := hdevices assignedID hassigned
        refine ⟨hmem, ?_⟩
        intro hhead
        rcases List.mem_cons.mp hhead with he | hlater
        · cases he
          exact howner rfl
        · exact hrest hlater

/-- Every user of a database that Core keeps is listed, with the assigned devices. -/
theorem mem_listed {delivery : Delivery} {session : Session} {users : List Account}
    (hdatabase : DatabaseInvariant m.database)
    (h : (listRemoteUsers P m delivery session).2 = .ok users) {username : String}
    {user : StoredAccount} (huser : m.database.users[username]? = some user)
    (hrole : user.role = .user) :
    ∃ account ∈ users, account.username = username ∧ account.devices = user.devices.toList := by
  have fits := hdatabase.fits username user huser
  have other : username ≠ defaultAdminUsername := by
    intro he
    rw [(hdatabase.role_admin_iff huser).mpr he] at hrole
    cases hrole
  refine ⟨accountOf (publicAccount user), ?_, fits.username, rfl⟩
  rw [(listRemoteUsers_ok h).2, List.mem_filter, List.mem_map]
  refine ⟨⟨publicAccount user, ?_, rfl⟩, ?_⟩
  · rw [List.mem_filter]
    refine ⟨List.mem_map_of_mem ?_, by simp [publicAccount, hrole]⟩
    exact (Keyed.mem_values_iff _ _).mpr ⟨username, huser⟩
  · simpa [accountOf, publicAccount, fits.username] using other

/-- A listed user's devices are those of an account in the database. -/
theorem of_mem_listed {delivery : Delivery} {session : Session} {users : List Account}
    (h : (listRemoteUsers P m delivery session).2 = .ok users) {account : Account}
    (haccount : account ∈ users) :
    ∃ (username : String) (user : StoredAccount), m.database.users[username]? = some user ∧
      user.role = .user ∧ account.devices = user.devices.toList := by
  rw [(listRemoteUsers_ok h).2, List.mem_filter, List.mem_map] at haccount
  obtain ⟨⟨printed, hprinted, rfl⟩, -⟩ := haccount
  obtain ⟨hmem, hrole⟩ := List.mem_filter.mp hprinted
  obtain ⟨user, huser, rfl⟩ := List.mem_map.mp hmem
  obtain ⟨username, hlookup⟩ := (Keyed.mem_values_iff _ _).mp huser
  exact ⟨username, user, hlookup, by simpa [publicAccount] using hrole, rfl⟩

/-- The ids that a removal forgets cover the removed id and every id of the removed card, among
the ids that are not empty. -/
theorem forgotten_covers {c : Catalog} {io : SaveOutcome} {live : Except AppError (List Device)}
    {disconnect : String → Except AppError Unit} {result : RemovalResult}
    (h : (Service.remove c io live disconnect deviceID).2 = .ok result) {assignedID : String}
    (hne : assignedID ≠ "") (hother : matchesRemovedDevice assignedID result.forgotten = false) :
    equivalentDeviceID assignedID deviceID = false ∧
      ∀ removed, c.devices.find? (Catalog.isCard deviceID) = some removed →
        ∀ x ∈ removed.ids, equivalentDeviceID assignedID x = false := by
  obtain ⟨-, hforgotten⟩ := remove_ok h
  have other : ∀ x ∈ result.forgotten, markOf assignedID ≠ markOf x := by
    intro x hx hmark
    have covered : matchesRemovedDevice assignedID result.forgotten = true :=
      List.any_eq_true.mpr ⟨x, hx, (equivalentDeviceID_iff_markOf assignedID x).mpr hmark⟩
    rw [covered] at hother
    cases hother
  have apart {x : String} (hmark : markOf assignedID ≠ markOf x) :
      equivalentDeviceID assignedID x = false := by
    rwa [Bool.eq_false_iff, ne_eq, equivalentDeviceID_iff_markOf]
  cases hfind : c.devices.find? (Catalog.isCard deviceID) with
  | none =>
    rw [hfind] at hforgotten
    refine ⟨apart (other deviceID (by rw [hforgotten]; exact List.mem_singleton_self deviceID)), ?_⟩
    intro removed hremoved
    cases hremoved
  | some card =>
    rw [hfind] at hforgotten
    have ids : ∀ x ∈ card.ids, markOf assignedID ≠ markOf x := by
      intro x hx
      by_cases hempty : x = ""
      · rw [hempty]
        intro hmark
        exact hne (markOf_eq_empty.mp (hmark.trans (markOf_eq_empty.mpr rfl)))
      · apply other
        rw [hforgotten, mem_appendUnique, List.mem_singleton]
        exact ⟨hempty, List.mem_cons.mp hx⟩
    constructor
    · have same := same_of_isCard (List.find?_some hfind)
      have known : ¬Stranger card deviceID := by simp [Stranger, same]
      rw [stranger_iff] at known
      push Not at known
      obtain ⟨x, hx, hmark⟩ := known
      exact apart (hmark ▸ ids x hx)
    · intro removed hremoved x hx
      cases hremoved
      exact apart (ids x hx)

/-- While no card is the device and no user is assigned it, a listing that meets it nowhere shows
it nowhere and remembers it nowhere. -/
theorem listing_strangers {env : ListingEnv} (cards : ∀ card ∈ s.catalog.devices, Stranger card deviceID)
    (assigned : Unassigned s.accounts deviceID)
    (current : ∀ live, env.live = .ok live → ∀ current ∈ live, Stranger current deviceID) :
    (∀ card ∈ (listRememberedDevices P s env).1.catalog.devices, Stranger card deviceID) ∧
    Unassigned (listRememberedDevices P s env).1.accounts deviceID ∧
    ∀ devices, (listRememberedDevices P s env).2 = .ok devices →
      ∀ entry ∈ devices, Stranger entry deviceID := by
  cases hlive : env.live with
  | error e =>
    simp only [listRememberedDevices, Service.list, hlive]
    exact ⟨cards, assigned, fun devices hdevices => nomatch hdevices⟩
  | ok live =>
    obtain ⟨stored, shown⟩ := strangers_catalog_merge env.save cards (current live hlive)
    simp only [listRememberedDevices, Service.list, hlive]
    cases hmerge : (s.catalog.merge env.save live).2 with
    | error e =>
      simp only [Except.mapError]
      exact ⟨stored, assigned, fun devices hdevices => nomatch hdevices⟩
    | ok devices =>
      have listed := shown devices hmerge
      simp only [Except.mapError]
      cases env.session with
      | none => exact ⟨stored, assigned, fun devices hdevices => (by cases hdevices; exact listed)⟩
      | some session =>
        have kept := @listRemoteUsers_database P s.accounts env.delivery session
        have unassigned : Unassigned (listRemoteUsers P s.accounts env.delivery session).1
            deviceID := by
          unfold Unassigned
          rw [kept]
          exact assigned
        cases husers : (listRemoteUsers P s.accounts env.delivery session).2 with
        | error e =>
          simp only [husers]
          exact ⟨stored, unassigned, fun devices hdevices => (by cases hdevices; exact listed)⟩
        | ok users =>
          have ids : ∀ x ∈ users.flatMap Account.devices, equivalentDeviceID x deviceID = false := by
            intro x hx
            obtain ⟨account, haccount, hdevice⟩ := List.mem_flatMap.mp hx
            obtain ⟨username, user, hlookup, hrole, hdevices⟩ := of_mem_listed husers haccount
            apply assigned username user hlookup hrole x
            rwa [hdevices, Std.ExtTreeSet.mem_toList] at hdevice
          simp only [husers]
          obtain ⟨stored', shown'⟩ := strangers_catalog_merge env.saveAssigned stored
            (strangers_rememberAssigned listed ids)
          refine ⟨stored', unassigned, ?_⟩
          intro remembered hremembered
          simp only [Service.rememberAssignments] at hremembered
          cases hagain : ((s.catalog.merge env.save live).1.merge env.saveAssigned
              ((users.flatMap Account.devices).foldl Service.rememberAssigned devices)).2 with
          | error e =>
            rw [hagain] at hremembered
            cases hremembered
          | ok merged =>
            rw [hagain] at hremembered
            cases hremembered
            exact shown' _ hagain

/-- What a removal that succeeds has done to the catalog and to the accounts. -/
theorem removeDevice_ok {env : RemovalEnv} {session : Option Session} {result : RemovalResult}
    (hdatabase : DatabaseInvariant s.accounts.database)
    (h : removeDevice P s env session deviceID = (s', .ok result)) :
    s'.catalog.devices = s.catalog.devices.eraseP (Catalog.isCard deviceID) ∧
    ∀ (username : String) (user : StoredAccount), s'.accounts.database.users[username]? = some user →
      user.role = .user → ∀ assignedID ∈ user.devices,
        equivalentDeviceID assignedID deviceID = false ∧
        ∀ removed, s.catalog.devices.find? (Catalog.isCard deviceID) = some removed →
          ∀ x ∈ removed.ids, equivalentDeviceID assignedID x = false := by
  cases session with
  | none => cases h
  | some session =>
    simp only [removeDevice] at h
    cases hremove : (Service.remove s.catalog env.save env.live env.disconnect deviceID).2 with
    | error e => simp [hremove] at h
    | ok removal =>
      simp only [hremove] at h
      cases husers : (listRemoteUsers P s.accounts (env.delivery 0) session).2 with
      | error e => simp [husers] at h
      | ok users =>
        simp only [husers, Prod.mk.injEq] at h
        obtain ⟨hs', hresult⟩ := h
        obtain ⟨_, hwithdrawn, rfl⟩ := map_eq_ok.mp hresult
        subst hs'
        refine ⟨(remove_ok hremove).1, ?_⟩
        intro username user huser hrole assignedID hassigned
        obtain ⟨before, hbefore, hsame, hdevices⟩ := withdrawAll_ok hwithdrawn huser
        obtain ⟨hmem, hkept⟩ := hdevices assignedID hassigned
        rw [(listRemoteUsers_ok husers).1] at hbefore
        have hne : assignedID ≠ "" := by
          rintro rfl
          exact absurd ((hdatabase.fits username before hbefore).devices "" hmem) (by decide)
        apply forgotten_covers hremove hne
        -- an assignment of a forgotten id would have been withdrawn
        by_contra hforgotten
        obtain ⟨account, haccount, hname, hlist⟩ :=
          mem_listed hdatabase husers hbefore (hsame ▸ hrole)
        apply hkept
        rw [assignmentsOf, List.mem_flatMap]
        refine ⟨account, haccount, ?_⟩
        rw [List.mem_map]
        refine ⟨assignedID, ?_, by rw [hname]⟩
        rw [List.mem_filter, hlist, Std.ExtTreeSet.mem_toList]
        exact ⟨hmem, by simpa using hforgotten⟩

end Assignments

/-- A removal that succeeds is complete exactly when the removed card was the device's only one. -/
theorem removal_complete_iff {P : Platform} {s s' : ServerState} {env : RemovalEnv}
    {session : Option Session} {deviceID : String} {result : RemovalResult}
    (hdatabase : ReachableDatabase P s.accounts.database)
    (h : removeDevice P s env session deviceID = (s', .ok result)) :
    Removed P s' (s.catalog.devices.find? (Catalog.isCard deviceID)) deviceID ↔
      SoleCard s.catalog.devices deviceID := by
  obtain ⟨hcards, hassigned⟩ := removeDevice_ok hdatabase.invariant h
  rw [← strangers_erase_iff, ← hcards]
  constructor
  · exact fun hremoved => hremoved.cards
  · intro cards
    refine ⟨cards, hassigned, ?_⟩
    intro envs offline
    have listed : Along (fun s env => (listRememberedDevices P s env).1) (fun _ env => ∀ live,
        env.live = .ok live → ∀ current ∈ live, Stranger current deviceID) s' envs := by
      apply along_of_at
      intro pre env post hsplit
      exact offline env (by simp [hsplit])
    refine along_safe (fun s : ServerState => (∀ card ∈ s.catalog.devices, Stranger card deviceID) ∧
      Unassigned s.accounts deviceID) ?_ ?_ ⟨cards, ?_⟩ listed
    · intro s env hs hoffline
      have hlisting := @listing_strangers P s deviceID env hs.1 hs.2 hoffline
      exact ⟨hlisting.1, hlisting.2.1⟩
    · intro s env hs hoffline
      exact (@listing_strangers P s deviceID env hs.1 hs.2 hoffline).2.2
    · intro username user huser hrole assignedID hassignedID
      exact (hassigned username user huser hrole assignedID hassignedID).1

/-- The console has signed in, and user alice has the phone. -/
def phoneOfAlice : RemoteAccountManager :=
  run (AccountOp.step freshPlatform) freshManager
    [.login "admin" "admin" "t1", .changeOwnPassword "admin" "admin" "long enough" [] none,
      .login "admin" "long enough" "t2", .createUser "alice" "wonderland" [] none,
      .setDeviceAccess "alice" "usb-7" true none]

def consoleSession : Session := ⟨"admin", "admin", "t2"⟩

/-- Nothing is online, and everything goes well. -/
def quietRemoval : RemovalEnv :=
  ⟨.ok [], fun _ => .ok (), ⟨true, true, true, true, true⟩, fun _ => ⟨⟨"", [], none⟩, true⟩⟩

/-- The phone is known over USB alone. -/
def usbOnly : ServerState :=
  ⟨run CatalogOp.step .newMemoryCatalog (usbThenWireless.take 1), phoneOfAlice⟩

theorem removal_complete_usb :
    Removed freshPlatform (removeDevice freshPlatform usbOnly quietRemoval (some consoleSession)
      "usb-7").1 (usbOnly.catalog.devices.find? (Catalog.isCard "usb-7")) "usb-7" := by
  have reached : ReachableDatabase freshPlatform usbOnly.accounts.database :=
    ReachableDatabase.run _ (.initial [] _ rfl)
  have succeeds : removeDevice freshPlatform usbOnly quietRemoval (some consoleSession) "usb-7" =
      ((removeDevice freshPlatform usbOnly quietRemoval (some consoleSession) "usb-7").1,
        .ok ⟨[], ["usb-7"]⟩) := rfl
  rw [removal_complete_iff reached succeeds]
  exact ⟨by decide, by decide⟩

/-- The card of the phone over Wi-Fi. -/
def wirelessCard : Device :=
  { id := "10.0.0.2:5555", state := "offline", transport := "wireless", hardwareID := "serial:R3" }

/-- The phone that has two cards is removed by its Wi-Fi address: the USB card, which has it as an
alias, goes, and the Wi-Fi card stays. -/
theorem handset_stays : ¬∀ (P : Platform) (ops : List CatalogOp) (accounts : RemoteAccountManager)
    (env : RemovalEnv) (session : Option Session) (deviceID : String) (s' : ServerState)
    (result : RemovalResult), ReachableDatabase P accounts.database →
    removeDevice P ⟨run CatalogOp.step .newMemoryCatalog ops, accounts⟩ env session deviceID =
      (s', .ok result) →
    Removed P s' ((run CatalogOp.step .newMemoryCatalog ops).devices.find?
      (Catalog.isCard deviceID)) deviceID := by
  intro h
  have catalog : run CatalogOp.step .newMemoryCatalog
      (usbThenWireless ++ [.merge ⟨true, true, true, true, true⟩ [usbAndWireless]]) =
      ⟨"", [{ usbAndWireless with state := "offline" }, wirelessCard], true, none⟩ := by
    decide
  have both := h freshPlatform
    (usbThenWireless ++ [.merge ⟨true, true, true, true, true⟩ [usbAndWireless]]) phoneOfAlice
    quietRemoval (some consoleSession) "10.0.0.2:5555"
  rw [catalog] at both
  have removed := both _ ⟨[], ["usb-7", "10.0.0.2:5555"]⟩
    (ReachableDatabase.run _ (.initial [] _ rfl)) rfl
  have stranger := removed.cards wirelessCard (by decide)
  revert stranger
  rw [Stranger]
  decide

end AdbControl.Server
