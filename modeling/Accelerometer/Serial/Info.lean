import Accelerometer.Text.Hex

/-!
# Descriptions of devices

What the system tells about a serial device.
-/

namespace Accelerometer

structure UsbIdentity where
  vendor : UInt16
  product : UInt16
  serialNumber : Option String
  manufacturer : Option String
  productName : Option String
  deriving DecidableEq, Repr

inductive Attachment
  | usb (identity : UsbIdentity)
  | pci
  | bluetooth
  | unknown
  deriving DecidableEq, Repr

def Attachment.name : Attachment → String
  | .usb _ => "USB"
  | .pci => "PCI"
  | .bluetooth => "Bluetooth"
  | .unknown => "Unknown"

structure DeviceInfo where
  name : String
  kind : String
  vendor : Option UInt16
  product : Option UInt16
  serialNumber : Option String
  manufacturer : Option String
  productName : Option String
  deriving DecidableEq, Repr

namespace DeviceInfo

def ofAttachment (name : String) (attachment : Attachment) : DeviceInfo :=
  match attachment with
  | .usb identity =>
    { name
      kind := attachment.name
      vendor := some identity.vendor
      product := some identity.product
      serialNumber := identity.serialNumber
      manufacturer := identity.manufacturer
      productName := identity.productName }
  | _ => ⟨name, attachment.name, none, none, none, none, none⟩

def identifierText (identifier : UInt16) : String :=
  .ofList ((Text.hexDigits 4 identifier.toNat).map Char.toUpper)

def text (info : DeviceInfo) : String :=
  let identifiers := match info.vendor, info.product with
    | some vendor, some product =>
      " " ++ identifierText vendor ++ ":" ++ identifierText product
    | _, _ => ""
  let product := match info.productName with
    | some product => " " ++ product
    | none => ""
  let manufacturer := match info.manufacturer with
    | some manufacturer => " (" ++ manufacturer ++ ")"
    | none => ""
  info.name ++ " [" ++ info.kind ++ "]" ++ identifiers ++ product ++ manufacturer

end DeviceInfo

end Accelerometer
