import ChassisRegistry.Record
import ChassisRegistry.Text.Blank

/-! # Attaching line cards

    A card is first described, which checks that it fits and changes nothing,
    and then installed: it gets the next number, and its ports take the next
    logical ports. In between the provisioning system is told of it, so the
    description is a value that may meet a record that has changed. Installing
    then fails, and what was installed so far stays. -/

namespace ChassisRegistry

/-- What the provisioning system is told of a card. -/
structure CardNotice where
  site      : Site
  number    : Nat
  driver    : CardDriver
  address   : SocketAddress
  hostname  : String
  portCount : Nat
  endpoint  : Endpoint
  deriving DecidableEq

namespace Record

/-- Describes the card that would be attached next. -/
def describeCard (r : Record) (driver : CardDriver) (address : SocketAddress)
    (hostname : String) : Except ChassisError CardNotice :=
  if r.logical.remaining < driver.portCount then
    .error (.exhausted r.site driver.portCount r.logical.remaining)
  else if Text.allBlank hostname then .error (.blank "hostname")
  else do
    let number ← r.physical.nextNumber
    return {
      site := r.site, number, driver, address
      hostname  := Text.trim hostname
      portCount := driver.portCount
      endpoint  := r.endpoint }

/-- Installs a card as it was described; the answer is its number. -/
def installCard (r : Record) (notice : CardNotice) : Except ChassisError Nat × Record :=
  if notice.site ≠ r.site then
    (.error (.internal (.cardElsewhere notice.site r.site)), r)
  else
    match r.physical.nextCard notice.driver notice.address notice.hostname with
    | .error e => (.error e, r)
    | .ok card =>
        let physical := r.physical.withCard card
        -- From here on the card is there, whatever comes.
        if card.number ≠ notice.number then
          (.error (.internal (.ordinalChanged notice.number card.number)), { r with physical })
        else
          match r.logical.bindEach card.devicePorts with
          | (.error e, logical) => (.error e, { logical, physical })
          | (.ok (), logical) => (.ok card.number, { logical, physical })

/-- Describes and installs a card. -/
def attachCard (r : Record) (driver : CardDriver) (address : SocketAddress) (hostname : String) :
    Except ChassisError Nat × Record :=
  match r.describeCard driver address hostname with
  | .error e => (.error e, r)
  | .ok notice => r.installCard notice

/-- The cards, as the provisioning system was told of them, with the present login. -/
def cardNotices (r : Record) : List CardNotice :=
  r.physical.cards.map fun card =>
    { site := r.site
      number    := card.number
      driver    := card.driver
      address   := card.address
      hostname  := card.hostname
      portCount := card.ports.length
      endpoint  := r.endpoint }

end Record

end ChassisRegistry
