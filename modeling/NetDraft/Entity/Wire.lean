/-
The form of entities on the wire.

All records are closed: a field that an entity does not have is refused.
-/
import NetDraft.Entity
import NetDraft.Wire

namespace NetDraft

instance : Wire Number where
  shape := .number
  ofVal n := n
  toVal n := n
  ofVal_toVal _ := rfl

instance : Wire Device where
  shape := .record "Device" true
    (.required "name" .text (.required "model" .text
      (.required "x" .number (.required "y" .number .nil))))
  ofVal := fun (name, model, x, y, ()) => ⟨name, model, x, y⟩
  toVal d := (d.name, d.model, d.x, d.y, ())
  ofVal_toVal _ := rfl

instance : Wire Module where
  shape := .record "Module" true
    (.required "deviceName" .text (.required "slot" .word (.required "model" .text .nil)))
  ofVal := fun (device, slot, model, ()) => ⟨device, slot, model⟩
  toVal m := (m.device, m.slot, m.model, ())
  ofVal_toVal _ := rfl

instance : Wire Link where
  shape := .record "Link" true
    (.required "device1Name" .text (.required "device1Interface" .text
      (.required "device2Name" .text (.required "device2Interface" .text
        (.required "linkType" .text .nil)))))
  ofVal := fun (device1, interface1, device2, interface2, cable, ()) =>
    ⟨⟨device1, interface1⟩, ⟨device2, interface2⟩, cable⟩
  toVal l := (l.first.device, l.first.interface, l.second.device, l.second.interface, l.cable, ())
  ofVal_toVal _ := rfl

/-- The value of an optional field: left out and nothing are the same. -/
def joinOptional {α : Type} (field : Option (Option α)) : Option α := field.getD none

/-- An optional field, left out if its value is nothing. -/
def splitOptional {α : Type} (value : Option α) : Option (Option α) := value.map some

instance : Wire HostAddressing where
  shape := .record "PcIpConfig" true
    (.required "deviceName" .text (.defaulted "dhcpEnabled" (.optional .flag)
      (.defaulted "ipAddress" (.optional .text) (.defaulted "subnetMask" (.optional .text)
        (.defaulted "defaultGateway" (.optional .text)
          (.defaulted "dnsServer" (.optional .text) .nil))))))
  ofVal := fun (device, dhcp, address, mask, gateway, dns, ()) =>
    ⟨device, joinOptional dhcp, joinOptional address, joinOptional mask, joinOptional gateway,
      joinOptional dns⟩
  toVal h := (h.device, splitOptional h.dhcp, splitOptional h.address, splitOptional h.mask,
    splitOptional h.gateway, splitOptional h.dns, ())
  ofVal_toVal
    | ⟨_, dhcp, address, mask, gateway, dns⟩ => by
      cases dhcp <;> cases address <;> cases mask <;> cases gateway <;> cases dns <;> rfl

instance : Wire RouterCommands where
  shape := .record "IosConfig" true
    (.required "deviceName" .text (.required "commands" .text .nil))
  ofVal := fun (device, commands, ()) => ⟨device, commands⟩
  toVal r := (r.device, r.commands, ())
  ofVal_toVal _ := rfl

end NetDraft
