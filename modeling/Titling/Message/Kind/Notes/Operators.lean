import Titling.Message.Kind.Note

/-! What there is to read about operators, and about making a subject. -/

namespace Titling.Message.Kind

/-- Notes on members that mean the same for all kinds that have them. -/
def operatorNotes : List (String × Note) :=
  [("__new__", .full "($type, *args, **kwargs)"
      "Create and return a new object.  See help(type) for accurate signature."),
   ("__repr__", .full "($self, /)" "Return repr(self)."),
   ("__hash__", .full "($self, /)" "Return hash(self)."),
   ("__str__", .full "($self, /)" "Return str(self)."),
   ("__getattribute__", .full "($self, name, /)" "Return getattr(self, name)."),
   ("__setattr__", .full "($self, name, value, /)" "Implement setattr(self, name, value)."),
   ("__delattr__", .full "($self, name, /)" "Implement delattr(self, name)."),
   ("__lt__", .full "($self, value, /)" "Return self<value."),
   ("__le__", .full "($self, value, /)" "Return self<=value."),
   ("__eq__", .full "($self, value, /)" "Return self==value."),
   ("__ne__", .full "($self, value, /)" "Return self!=value."),
   ("__gt__", .full "($self, value, /)" "Return self>value."),
   ("__ge__", .full "($self, value, /)" "Return self>=value."),
   ("__init__", .full "($self, /, *args, **kwargs)"
      "Initialize self.  See help(type(self)) for accurate signature."),
   ("__call__", .full "($self, /, *args, **kwargs)" "Call self as a function."),
   ("__or__", .full "($self, value, /)" "Return self|value."),
   ("__ror__", .full "($self, value, /)" "Return value|self."),
   ("__add__", .full "($self, value, /)" "Return self+value."),
   ("__radd__", .full "($self, value, /)" "Return value+self."),
   ("__sub__", .full "($self, value, /)" "Return self-value."),
   ("__rsub__", .full "($self, value, /)" "Return value-self."),
   ("__mul__", .full "($self, value, /)" "Return self*value."),
   ("__rmul__", .full "($self, value, /)" "Return value*self."),
   ("__mod__", .full "($self, value, /)" "Return self%value."),
   ("__rmod__", .full "($self, value, /)" "Return value%self."),
   ("__divmod__", .full "($self, value, /)" "Return divmod(self, value)."),
   ("__rdivmod__", .full "($self, value, /)" "Return divmod(value, self)."),
   ("__pow__", .full "($self, value, mod=None, /)" "Return pow(self, value, mod)."),
   ("__rpow__", .full "($self, value, mod=None, /)" "Return pow(value, self, mod)."),
   ("__neg__", .full "($self, /)" "-self"),
   ("__pos__", .full "($self, /)" "+self"),
   ("__abs__", .full "($self, /)" "abs(self)"),
   ("__bool__", .full "($self, /)" "True if self else False"),
   ("__invert__", .full "($self, /)" "~self"),
   ("__lshift__", .full "($self, value, /)" "Return self<<value."),
   ("__rlshift__", .full "($self, value, /)" "Return value<<self."),
   ("__rshift__", .full "($self, value, /)" "Return self>>value."),
   ("__rrshift__", .full "($self, value, /)" "Return value>>self."),
   ("__and__", .full "($self, value, /)" "Return self&value."),
   ("__rand__", .full "($self, value, /)" "Return value&self."),
   ("__xor__", .full "($self, value, /)" "Return self^value."),
   ("__rxor__", .full "($self, value, /)" "Return value^self."),
   ("__int__", .full "($self, /)" "int(self)"),
   ("__float__", .full "($self, /)" "float(self)"),
   ("__floordiv__", .full "($self, value, /)" "Return self//value."),
   ("__rfloordiv__", .full "($self, value, /)" "Return value//self."),
   ("__truediv__", .full "($self, value, /)" "Return self/value."),
   ("__rtruediv__", .full "($self, value, /)" "Return value/self."),
   ("__index__", .full "($self, /)"
      "Return self converted to an integer, if self is suitable for use as an index into a list."),
   ("__iter__", .full "($self, /)" "Implement iter(self)."),
   ("__len__", .full "($self, /)" "Return len(self)."),
   ("__getitem__", .full "($self, key, /)" "Return self[key]."),
   ("__contains__", .full "($self, key, /)" "Return key in self."),
   ("__setitem__", .full "($self, key, value, /)" "Set self[key] to value."),
   ("__delitem__", .full "($self, key, /)" "Delete self[key]."),
   ("__iadd__", .full "($self, value, /)" "Implement self+=value."),
   ("__imul__", .full "($self, value, /)" "Implement self*=value."),
   ("__ior__", .full "($self, value, /)" "Return self|=value."),
   ("__get__", .full "($self, instance, owner=None, /)"
      "Return an attribute of instance, which is of type owner."),
   ("__set__", .full "($self, instance, value, /)" "Set an attribute of instance to value."),
   ("__delete__", .full "($self, instance, /)" "Delete an attribute of instance.")]

end Titling.Message.Kind
