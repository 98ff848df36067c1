/-!
# Text of the base wrapper

The C# file that holds the wrapper every generated type derives from, with its support types. Only
the name of its namespace varies; the text before and after that name is fixed.
-/
namespace VaultModels.Model

/-- The lines before the namespace. -/
def wrapperHead : List String :=
  ["// <auto-generated>",
   "//     This code was generated by mf-scaffold.",
   "//     Changes to this file will be lost when the code is regenerated.",
   "// </auto-generated>",
   "using System;",
   "using System.Collections.Generic;",
   "using System.ComponentModel;",
   "using System.Linq;",
   "using MFilesAPI;",
   ""]

/-- The lines after the namespace. -/
def wrapperBody : List String :=
  ["\x7b",
   "\t/// <summary>",
   "\t/// Marks a generated class with the vault class it was generated from.",
   "\t/// </summary>",
   "\t[AttributeUsage(AttributeTargets.Class, AllowMultiple = false)]",
   "\tpublic class MetaStructureClassAttribute : Attribute",
   "\t\x7b",
   "\t\tpublic string Name \x7b get; set; \x7d",
   "",
   "\t\tpublic MetaStructureClassAttribute()",
   "\t\t\x7b",
   "\t\t\tName = \"\";",
   "\t\t\x7d",
   "\t\x7d",
   "",
   "\t/// <summary>",
   "\t/// Wraps one object version: identity, property access and the",
   "\t/// check-out lifecycle shared by every generated type.",
   "\t/// </summary>",
   "\tpublic abstract class ObjVerEx : IDisposable",
   "\t\x7b",
   "\t\tprivate readonly bool checkedOutByUs;",
   "\t\tprivate bool disposed;",
   "",
   "\t\tpublic Vault Vault \x7b get; private set; \x7d",
   "\t\tpublic ObjectVersion Info \x7b get; private set; \x7d",
   "\t\tpublic PropertyValues Properties \x7b get; private set; \x7d",
   "",
   "\t\tpublic ObjVer ObjVer \x7b get \x7b return Info.ObjVer; \x7d \x7d",
   "\t\tpublic int Type \x7b get \x7b return ObjVer.Type; \x7d \x7d",
   "\t\tpublic int ID \x7b get \x7b return ObjVer.ID; \x7d \x7d",
   "\t\tpublic int Version \x7b get \x7b return ObjVer.Version; \x7d \x7d",
   "\t\tpublic int Class \x7b get \x7b return Info.Class; \x7d \x7d",
   "\t\tpublic string Title \x7b get \x7b return Info.Title; \x7d \x7d",
   "",
   "\t\tprotected ObjVerEx(Vault vault, ObjectVersion versionInfo, bool checkOut = false)",
   "\t\t\x7b",
   "\t\t\tVault = vault;",
   "\t\t\tInfo = versionInfo;",
   "\t\t\tif (checkOut)",
   "\t\t\t\tcheckedOutByUs = StartRequireCheckedOut();",
   "\t\t\tProperties = Vault.ObjectPropertyOperations.GetProperties(Info.ObjVer, false);",
   "\t\t\x7d",
   "",
   "\t\tprotected ObjVerEx(ObjectVersionAndProperties ovap, bool checkOut = false)",
   "\t\t\t: this(ovap.Vault, ovap.VersionData, checkOut)",
   "\t\t\x7b",
   "\t\t\x7d",
   "",
   "\t\tprotected ObjVerEx(Vault vault, ObjVer objVer, bool checkOut = false)",
   "\t\t\t: this(vault, vault.ObjectOperations.GetObjectInfo(objVer, true, false), checkOut)",
   "\t\t\x7b",
   "\t\t\x7d",
   "",
   "\t\tprotected ObjVerEx(Vault vault, int objType, int id, int version, bool checkOut = false)",
   "\t\t\t: this(vault, CreateObjVer(objType, id, version), checkOut)",
   "\t\t\x7b",
   "\t\t\x7d",
   "",
   "\t\tprivate static ObjVer CreateObjVer(int objType, int id, int version)",
   "\t\t\x7b",
   "\t\t\tObjVer objVer = new ObjVer();",
   "\t\t\tobjVer.SetIDs(objType, id, version);",
   "\t\t\treturn objVer;",
   "\t\t\x7d",
   "",
   "\t\t#region Check-out lifecycle",
   "",
   "\t\t/// <summary>",
   "\t\t/// Checks the object out unless it already is. Returns true when this",
   "\t\t/// call performed the check-out.",
   "\t\t/// </summary>",
   "\t\tpublic bool StartRequireCheckedOut()",
   "\t\t\x7b",
   "\t\t\tif (Vault.ObjectOperations.IsObjectCheckedOut(Info.ObjVer.ObjID))",
   "\t\t\t\treturn false;",
   "",
   "\t\t\tInfo = Vault.ObjectOperations.CheckOut(Info.ObjVer.ObjID);",
   "\t\t\treturn true;",
   "\t\t\x7d",
   "",
   "\t\t/// <summary>",
   "\t\t/// Checks the object back in if requested and this wrapper checked it out.",
   "\t\t/// </summary>",
   "\t\tpublic void EndRequireCheckedOut(bool checkIn)",
   "\t\t\x7b",
   "\t\t\tif (!checkIn || !checkedOutByUs)",
   "\t\t\t\treturn;",
   "",
   "\t\t\tInfo = Vault.ObjectOperations.CheckIn(Info.ObjVer);",
   "\t\t\x7d",
   "",
   "\t\tpublic void Dispose()",
   "\t\t\x7b",
   "\t\t\tif (disposed)",
   "\t\t\t\treturn;",
   "",
   "\t\t\tEndRequireCheckedOut(true);",
   "\t\t\tdisposed = true;",
   "\t\t\x7d",
   "",
   "\t\t#endregion",
   "",
   "\t\t#region Property access",
   "",
   "\t\tprotected int PropertyId(object reference)",
   "\t\t\x7b",
   "\t\t\tif (reference is int)",
   "\t\t\t\treturn (int)reference;",
   "",
   "\t\t\tstring text = reference as string;",
   "\t\t\tif (string.IsNullOrEmpty(text))",
   "\t\t\t\tthrow new ArgumentException(\"Empty property reference.\");",
   "",
   "\t\t\tint id;",
   "\t\t\tif (int.TryParse(text, out id))",
   "\t\t\t\treturn id;",
   "",
   "\t\t\tGuid guid;",
   "\t\t\tif (text.StartsWith(\"\x7b\") && Guid.TryParse(text, out guid))",
   "\t\t\t\treturn Vault.PropertyDefOperations.GetPropertyDefIDByGUID(text);",
   "",
   "\t\t\tid = Vault.PropertyDefOperations.GetPropertyDefIDByAlias(text);",
   "\t\t\tif (id == -1)",
   "\t\t\t\tthrow new ApplicationException(\"Vault element not found. Type:PropertyDefinition Alias:\" + text);",
   "\t\t\treturn id;",
   "\t\t\x7d",
   "",
   "\t\tprotected PropertyValue FindProperty(object reference)",
   "\t\t\x7b",
   "\t\t\tint index = Properties.IndexOf(PropertyId(reference));",
   "\t\t\treturn index == -1 ? null : Properties[index];",
   "\t\t\x7d",
   "",
   "\t\tprotected T GetProperty<T>(object reference)",
   "\t\t\x7b",
   "\t\t\tPropertyValue pv = FindProperty(reference);",
   "\t\t\tif (pv == null || pv.Value.IsNULL())",
   "\t\t\t\treturn default(T);",
   "\t\t\treturn (T)Convert.ChangeType(pv.Value.Value, typeof(T));",
   "\t\t\x7d",
   "",
   "\t\tprotected void SetProperty(object reference, object value)",
   "\t\t\x7b",
   "\t\t\tint id = PropertyId(reference);",
   "\t\t\tPropertyDef pdef = Vault.PropertyDefOperations.GetPropertyDef(id);",
   "",
   "\t\t\tPropertyValue pv = new PropertyValue();",
   "\t\t\tpv.PropertyDef = id;",
   "\t\t\tpv.TypedValue.SetValue(pdef.DataType, value);",
   "",
   "\t\t\tStartRequireCheckedOut();",
   "\t\t\tVault.ObjectPropertyOperations.SetProperty(Info.ObjVer, pv);",
   "\t\t\tProperties = Vault.ObjectPropertyOperations.GetProperties(Info.ObjVer, false);",
   "\t\t\x7d",
   "",
   "\t\tprotected IEnumerable<Lookup> GetLookupValues(object reference)",
   "\t\t\x7b",
   "\t\t\tPropertyValue pv = FindProperty(reference);",
   "\t\t\tif (pv == null || pv.Value.IsNULL())",
   "\t\t\t\treturn Enumerable.Empty<Lookup>();",
   "",
   "\t\t\tif (pv.Value.DataType == MFDataType.MFDatatypeLookup)",
   "\t\t\t\treturn new[] \x7b pv.Value.GetValueAsLookup() \x7d;",
   "",
   "\t\t\treturn pv.Value.GetValueAsLookups().Cast<Lookup>();",
   "\t\t\x7d",
   "",
   "\t\tprotected T GetLookup<T>(object reference) where T : ObjVerEx",
   "\t\t\x7b",
   "\t\t\treturn GetLookups<T>(reference).FirstOrDefault();",
   "\t\t\x7d",
   "",
   "\t\tprotected List<T> GetLookups<T>(object reference) where T : ObjVerEx",
   "\t\t\x7b",
   "\t\t\treturn GetLookupValues(reference)",
   "\t\t\t\t.Select(lookup => (T)Activator.CreateInstance(typeof(T), Vault, lookup.ObjectType, lookup.Item, lookup.Version, false))",
   "\t\t\t\t.ToList();",
   "\t\t\x7d",
   "",
   "\t\tprotected void SetLookup(object reference, ObjVerEx value)",
   "\t\t\x7b",
   "\t\t\tSetLookups(reference, value == null ? new List<ObjVerEx>() : new List<ObjVerEx> \x7b value \x7d);",
   "\t\t\x7d",
   "",
   "\t\tprotected void SetLookups<T>(object reference, IEnumerable<T> values) where T : ObjVerEx",
   "\t\t\x7b",
   "\t\t\tLookups lookups = new Lookups();",
   "\t\t\tforeach (T value in values)",
   "\t\t\t\x7b",
   "\t\t\t\tLookup lookup = new Lookup();",
   "\t\t\t\tlookup.ObjectType = value.Type;",
   "\t\t\t\tlookup.Item = value.ID;",
   "\t\t\t\tlookups.Add(-1, lookup);",
   "\t\t\t\x7d",
   "\t\t\tSetProperty(reference, lookups);",
   "\t\t\x7d",
   "",
   "\t\tprotected T GetValueListItem<T>(object reference) where T : struct",
   "\t\t\x7b",
   "\t\t\treturn GetValueListItems<T>(reference).FirstOrDefault();",
   "\t\t\x7d",
   "",
   "\t\tprotected List<T> GetValueListItems<T>(object reference) where T : struct",
   "\t\t\x7b",
   "\t\t\treturn GetLookupValues(reference)",
   "\t\t\t\t.Select(lookup => (T)Enum.ToObject(typeof(T), lookup.Item))",
   "\t\t\t\t.ToList();",
   "\t\t\x7d",
   "",
   "\t\tprotected void SetValueListItem<T>(object reference, T value) where T : struct",
   "\t\t\x7b",
   "\t\t\tSetValueListItems(reference, new List<T> \x7b value \x7d);",
   "\t\t\x7d",
   "",
   "\t\tprotected void SetValueListItems<T>(object reference, IEnumerable<T> values) where T : struct",
   "\t\t\x7b",
   "\t\t\tLookups lookups = new Lookups();",
   "\t\t\tforeach (T value in values)",
   "\t\t\t\x7b",
   "\t\t\t\tLookup lookup = new Lookup();",
   "\t\t\t\tlookup.Item = Convert.ToInt32(value);",
   "\t\t\t\tlookups.Add(-1, lookup);",
   "\t\t\t\x7d",
   "\t\t\tSetProperty(reference, lookups);",
   "\t\t\x7d",
   "",
   "\t\t#endregion",
   "\t\x7d",
   "",
   "\t/// <summary>",
   "\t/// Reads the original vault name back from a generated enum member.",
   "\t/// </summary>",
   "\tpublic static class MetaStructureExtensions",
   "\t\x7b",
   "\t\tpublic static string OriginalName(this Enum value)",
   "\t\t\x7b",
   "\t\t\tDescriptionAttribute attribute = value.GetType()",
   "\t\t\t\t.GetField(value.ToString())",
   "\t\t\t\t.GetCustomAttributes(typeof(DescriptionAttribute), false)",
   "\t\t\t\t.Cast<DescriptionAttribute>()",
   "\t\t\t\t.FirstOrDefault();",
   "",
   "\t\t\treturn attribute == null ? value.ToString() : attribute.Description;",
   "\t\t\x7d",
   "\t\x7d",
   "\x7d"]

end VaultModels.Model
